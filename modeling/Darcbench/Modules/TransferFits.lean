import Darcbench.Modules.TransferPlan
import Mathlib.Algebra.GroupWithZero.Nat

/-!
# Measurements within the ceiling

As long as all that a run may read and reserve is less than the ceiling, no
reservation is refused.
-/

namespace Darcbench

namespace Connection

/-! ## The steps of a connection -/

/-- Everything a step of a connection can be. -/
inductive Advances (budget : Budget) (downloadBytes : Option ℕ) :
    Measuring → Event → Budget × ℕ × Measuring → Prop
  | opened (failed : Bool) :
      Advances budget downloadBytes .opening (.opened failed)
        (budget, 0,
          if failed then .finished (.error .io) else .reserving .head none)
  | goOn (total : ℕ) :
      Advances budget downloadBytes (.looping total) .goOn
        (budget, 0,
          if downloadBytes.any fun wanted => wanted ≤ total then
            .finished (.ok (total, false))
          else .reserving (.body total) none)
  | load (site : ReadSite) :
      Advances budget downloadBytes (.reserving site none) .load
        (budget, 0, .reserving site (some budget.spent))
  | refused (site : ReadSite) (current : ℕ) (spurious : Bool)
      (hzero : budget.granted current readChunk = 0) :
      Advances budget downloadBytes (.reserving site (some current))
        (.exchange spurious) (budget, 0, afterRefusal site)
  | granted (site : ReadSite) :
      Advances budget downloadBytes (.reserving site (some budget.spent))
        (.exchange false)
        ({ budget with
            spent := budget.spent + budget.granted budget.spent readChunk }, 0,
          .reading site (budget.granted budget.spent readChunk))
  | missed (site : ReadSite) (current : ℕ) (spurious : Bool) :
      Advances budget downloadBytes (.reserving site (some current))
        (.exchange spurious)
        (budget, 0, .reserving site (some budget.spent))
  | bytes (site : ReadSite) (granted : ℕ) (bytes : List UInt8)
      (hle : bytes.length ≤ granted) :
      Advances budget downloadBytes (.reading site granted)
        (.read (.ok bytes))
        (budget, bytes.length,
          .refunding site (granted - bytes.length) (.ok bytes))
  | noBytes (site : ReadSite) (granted : ℕ) (outcome : ReadOutcome)
      (hnone : ∀ bytes, outcome ≠ .ok bytes) :
      Advances budget downloadBytes (.reading site granted) (.read outcome)
        (budget, 0, .refunding site granted outcome)
  | refund (site : ReadSite) (bytes : ℕ) (outcome : ReadOutcome) :
      Advances budget downloadBytes (.refunding site bytes outcome) .refund
        (budget.refund bytes, 0, afterRead downloadBytes outcome site)

theorem advances_of_exchange {budget : Budget} {conn : Connection}
    {site : ReadSite} {current : ℕ} {spurious : Bool}
    (hnext : conn.next = .reserving site (some current))
    {after : Budget × ℕ × Measuring}
    (h : conn.advance budget (.exchange spurious) = some after) :
    Advances budget conn.downloadBytes conn.next (.exchange spurious)
      after := by
  simp only [advance, hnext] at h
  rw [hnext]
  split_ifs at h with hzero hsame
  · obtain rfl := Option.some.inj h
    exact .refused site current spurious hzero
  · obtain rfl := Option.some.inj h
    obtain ⟨rfl, rfl⟩ := hsame
    exact .granted site
  · obtain rfl := Option.some.inj h
    exact .missed site current spurious

theorem advances_of_read {budget : Budget} {conn : Connection}
    {site : ReadSite} {granted : ℕ} {outcome : ReadOutcome}
    (hnext : conn.next = .reading site granted)
    {after : Budget × ℕ × Measuring}
    (h : conn.advance budget (.read outcome) = some after) :
    Advances budget conn.downloadBytes conn.next (.read outcome) after := by
  rw [hnext]
  cases outcome with
  | ok bytes =>
      simp only [advance, hnext] at h
      split_ifs at h with hle
      obtain rfl := Option.some.inj h
      exact .bytes site granted bytes hle
  | unexpectedEof =>
      simp only [advance, hnext, Option.some.injEq] at h
      subst h
      exact .noBytes site granted _ (by simp)
  | error =>
      simp only [advance, hnext, Option.some.injEq] at h
      subst h
      exact .noBytes site granted _ (by simp)

theorem advances_of_advance {budget : Budget} {conn : Connection}
    {event : Event} {after : Budget × ℕ × Measuring}
    (h : conn.advance budget event = some after) :
    Advances budget conn.downloadBytes conn.next event after := by
  cases event with
  | opened failed =>
      cases hnext : conn.next with
      | opening =>
          simp only [advance, hnext, Option.some.injEq] at h
          exact h ▸ .opened failed
      | _ => simp only [advance, hnext, reduceCtorEq] at h
  | goOn =>
      cases hnext : conn.next with
      | looping total =>
          simp only [advance, hnext, Option.some.injEq] at h
          exact h ▸ .goOn total
      | _ => simp only [advance, hnext, reduceCtorEq] at h
  | load =>
      cases hnext : conn.next with
      | reserving site current =>
          cases current with
          | none =>
              simp only [advance, hnext, Option.some.injEq] at h
              exact h ▸ .load site
          | some current => simp only [advance, hnext, reduceCtorEq] at h
      | _ => simp only [advance, hnext, reduceCtorEq] at h
  | exchange spurious =>
      cases hnext : conn.next with
      | reserving site current =>
          cases current with
          | none => simp only [advance, hnext, reduceCtorEq] at h
          | some current => exact hnext ▸ advances_of_exchange hnext h
      | _ => simp only [advance, hnext, reduceCtorEq] at h
  | read outcome =>
      cases hnext : conn.next with
      | reading site granted => exact hnext ▸ advances_of_read hnext h
      | _ => simp only [advance, hnext, reduceCtorEq] at h
  | refund =>
      cases hnext : conn.next with
      | refunding site bytes outcome =>
          simp only [advance, hnext, Option.some.injEq] at h
          exact h ▸ .refund site bytes outcome
      | _ => simp only [advance, hnext, reduceCtorEq] at h

/-! ## Unharmed connections -/

/-- The connection holds no more than a chunk, it has last seen the counter
below the ceiling, and it was not cut short. -/
structure Unharmed (ceiling : ℕ) (next : Measuring) : Prop where
  held_le : next.held ≤ readChunk
  current_lt : ∀ site current, next = .reserving site (some current) →
    current < ceiling
  whole : ∀ total, next ≠ .finished (.ok (total, true))

theorem unharmed_of_idle {ceiling : ℕ} {next : Measuring}
    (hheld : next.held = 0)
    (hcurrent : ∀ site current, next ≠ .reserving site (some current))
    (hwhole : ∀ total, next ≠ .finished (.ok (total, true))) :
    Unharmed ceiling next where
  held_le := hheld ▸ Nat.zero_le readChunk
  current_lt := fun site current heq => absurd heq (hcurrent site current)
  whole := hwhole

theorem unharmed_afterRead {ceiling : ℕ} (downloadBytes : Option ℕ)
    (outcome : ReadOutcome) (site : ReadSite) :
    Unharmed ceiling (afterRead downloadBytes outcome site) := by
  have hnext : ∀ next : Measuring, next = afterRead downloadBytes outcome site →
      (∃ total, next = .looping total) ∨
        (∃ error, next = .finished (.error error)) ∨
          ∃ total, next = .finished (.ok (total, false)) := by
    rintro next rfl
    cases site with
    | head =>
        simp only [afterRead, afterHead]
        repeat' split
        all_goals simp
    | body total =>
        simp only [afterRead, afterBody]
        split <;> simp
  refine unharmed_of_idle (held_afterRead downloadBytes outcome site) ?_ ?_
  · intro site' current heq
    obtain ⟨total, h⟩ | ⟨error, h⟩ | ⟨total, h⟩ := hnext _ rfl
    all_goals exact absurd (h.symm.trans heq) (by simp)
  · intro total' heq
    obtain ⟨total, h⟩ | ⟨error, h⟩ | ⟨total, h⟩ := hnext _ rfl
    all_goals exact absurd (h.symm.trans heq) (by simp)

/-- Below the ceiling no step harms a connection. -/
theorem Unharmed.of_advances {budget : Budget} {downloadBytes : Option ℕ}
    {next : Measuring} {event : Event} {after : Budget × ℕ × Measuring}
    (hlt : budget.spent < budget.ceiling)
    (hunharmed : Unharmed budget.ceiling next)
    (h : Advances budget downloadBytes next event after) :
    Unharmed budget.ceiling after.2.2 := by
  cases h with
  | opened failed => cases failed <;> exact unharmed_of_idle rfl nofun nofun
  | goOn total =>
      dsimp only
      split
      · exact unharmed_of_idle rfl nofun (by simp)
      · exact unharmed_of_idle rfl nofun nofun
  | load site =>
      refine ⟨Nat.zero_le _, ?_, nofun⟩
      rintro site' current ⟨⟩
      exact hlt
  | refused site current spurious hzero =>
      have hcurrent := hunharmed.current_lt site current rfl
      have hchunk : 0 < readChunk := by decide
      rw [Budget.granted] at hzero
      omega
  | granted site => exact ⟨Nat.min_le_left _ _, nofun, nofun⟩
  | missed site current spurious =>
      refine ⟨Nat.zero_le _, ?_, nofun⟩
      rintro site' current' ⟨⟩
      exact hlt
  | bytes site granted bytes hle =>
      have hheld : granted ≤ readChunk := hunharmed.held_le
      exact ⟨(Nat.sub_le _ _).trans hheld, nofun, nofun⟩
  | noBytes site granted outcome hnone =>
      exact ⟨hunharmed.held_le, nofun, nofun⟩
  | refund site bytes outcome =>
      exact unharmed_afterRead downloadBytes outcome site

end Connection

namespace NetworkTransfer

open Connection

/-! ## The account of a run -/

/-- What the two reads that bound a connection and its body come to. -/
def capacity (downloadBytes : Option ℕ) : ℕ :=
  2 * readChunk + downloadBytes.getD 0

/-- The capacity of the connections that a task opens. -/
def Task.weight (params : ModuleParams) : Task → ℕ
  | .measure downloadBytes streams => streams * capacity downloadBytes
  | .shape streams =>
      params.reps * (streams * capacity (some (downloadBytes params)))
  | _ => 0

def weight (params : ModuleParams) (tasks : List Task) : ℕ :=
  (tasks.map (Task.weight params)).sum

theorem weight_append (params : ModuleParams) (tasks more : List Task) :
    weight params (tasks ++ more) =
      weight params tasks + weight params more := by
  rw [weight, List.map_append, List.sum_append, weight, weight]

theorem weight_cons (params : ModuleParams) (task : Task) (tasks : List Task) :
    weight params (task :: tasks) =
      task.weight params + weight params tasks := by
  rw [weight, List.map_cons, List.sum_cons, weight]

theorem weight_flatten_replicate (params : ModuleParams) (count : ℕ)
    (tasks : List Task) :
    weight params (List.replicate count tasks).flatten =
      count * weight params tasks := by
  induction count with
  | zero => rw [Nat.zero_mul]; rfl
  | succ count ih =>
      rw [List.replicate_succ, List.flatten_cons, weight_append, ih,
        Nat.succ_mul, Nat.add_comm]

theorem weight_downloadReps (params : ModuleParams) (streams : ℕ) :
    weight params (downloadReps params streams) =
      (Task.shape streams).weight params := by
  rw [downloadReps, weight_flatten_replicate, weight_cons, weight_cons]
  exact congrArg (params.reps * ·) (Nat.zero_add _)

namespace Stream

/-- What a response may still charge and what is reserved for it. -/
def due (stream : Stream) : ℕ :=
  stream.conn.next.held + (readChunk + stream.conn.downloadBytes.getD 0)

/-- What a step of a connection does to the account and to the response. -/
theorem exists_of_advance {budget budget' : Budget} {stream stream' : Stream}
    {event : Connection.Event}
    (h : stream.advance budget event = some (budget', stream')) :
    ∃ read next, stream.conn.advance budget event = some (budget', read, next) ∧
      stream' = ⟨{ stream.conn with next }, stream.unread.drop read⟩ ∧
      read ≤ stream.unread.length := by
  rw [advance] at h
  split_ifs at h with hanswered
  obtain ⟨⟨budget'', read, next⟩, hadvance, heq⟩ := Option.map_eq_some_iff.mp h
  obtain ⟨rfl, rfl⟩ := Prod.mk.inj heq
  refine ⟨read, next, hadvance, rfl, ?_⟩
  have hadvances := advances_of_advance hadvance
  generalize stream.conn.next = current at hadvances
  cases hadvances with
  | bytes site granted bytes hle =>
      rw [answered, Bool.and_eq_true, List.isPrefixOf_iff_prefix] at hanswered
      exact hanswered.1.length_le
  | _ => exact Nat.zero_le _

end Stream

namespace Run

variable {params : ModuleParams} {s t : Run}

/-- The account of a run that is within its plan. -/
structure Within (params : ModuleParams) (s : Run) : Prop where
  ceiling : s.budget.ceiling = transferCeilingBytes
  planned : (s.streams.map fun stream =>
        capacity stream.conn.downloadBytes).sum + weight params s.todo ≤
      weight params (plan params)
  account : s.budget.spent +
        (s.streams.map fun stream => stream.unread.length).sum ≤
      (s.streams.map Stream.due).sum
  held : (s.streams.map fun stream => stream.conn.next.held).sum ≤
    s.budget.spent
  unharmed : ∀ stream ∈ s.streams,
    Unharmed s.budget.ceiling stream.conn.next
  complete : s.curtailed = false

theorem within_start (params : ModuleParams) :
    Within params (start params) where
  ceiling := rfl
  planned := by
    rw [start, List.map_nil, List.sum_nil, Nat.zero_add]
  account := Nat.le_refl _
  held := Nat.le_refl _
  unharmed := fun stream hstream => absurd hstream List.not_mem_nil
  complete := rfl

/-- A run within its plan spends no more than the plan has. -/
theorem Within.spent_le (h : Within params s) :
    s.budget.spent ≤ weight params (plan params) := by
  have hdue : (s.streams.map Stream.due).sum ≤
      (s.streams.map fun stream => capacity stream.conn.downloadBytes).sum := by
    refine List.sum_le_sum fun stream hstream => ?_
    have hheld := (h.unharmed stream hstream).held_le
    rw [Stream.due, capacity]
    omega
  have hplanned := h.planned
  have haccount := h.account
  omega

theorem Within.spent_lt (h : Within params s)
    (hplan : weight params (plan params) < transferCeilingBytes) :
    s.budget.spent < s.budget.ceiling := by
  rw [h.ceiling]
  exact lt_of_le_of_lt h.spent_le hplan

/-- A step of a connection stays within the plan. -/
theorem Within.advance (h : Within params s)
    (hplan : weight params (plan params) < transferCeilingBytes)
    {i : ℕ} {stream stream' : Stream} {budget : Budget}
    {event : Connection.Event}
    (hstream : s.streams[i]? = some stream)
    (hadvance : stream.advance s.budget event = some (budget, stream')) :
    Within params
      { s with budget := budget, streams := s.streams.set i stream' } := by
  have hmem := List.mem_of_getElem? hstream
  have hlt := h.spent_lt hplan
  have hheld : stream.conn.next.held ≤ s.budget.spent :=
    (le_sum_map (fun stream : Stream => stream.conn.next.held) hmem).trans
      h.held
  have hfits : s.budget.spent < 2 ^ 64 := by
    refine hlt.trans ?_
    rw [h.ceiling]
    decide
  obtain ⟨read, next, hconn, rfl, hread⟩ := Stream.exists_of_advance hadvance
  have hsettles := settles_advance hfits hheld hconn
  have hspent := hsettles.spent
  have hcapacity := sum_map_set
    (fun stream : Stream => capacity stream.conn.downloadBytes) hstream
    ⟨{ stream.conn with next }, stream.unread.drop read⟩
  have hunread := sum_map_set
    (fun stream : Stream => stream.unread.length) hstream
    ⟨{ stream.conn with next }, stream.unread.drop read⟩
  have hdue := sum_map_set Stream.due hstream
    ⟨{ stream.conn with next }, stream.unread.drop read⟩
  have hsum := sum_map_set
    (fun stream : Stream => stream.conn.next.held) hstream
    ⟨{ stream.conn with next }, stream.unread.drop read⟩
  have hplanned := h.planned
  have haccount := h.account
  have hheldAll := h.held
  simp only [Stream.due, List.length_drop] at hcapacity hunread hdue hsum hspent
  refine ⟨hsettles.ceiling.trans h.ceiling, ?_, ?_, ?_, ?_, h.complete⟩
  · dsimp only
    omega
  · dsimp only
    omega
  · dsimp only
    omega
  · intro other hother
    dsimp only
    rw [hsettles.ceiling]
    rcases List.mem_or_eq_of_mem_set hother with hold | rfl
    · exact h.unharmed other hold
    · exact (h.unharmed stream hmem).of_advances hlt
        (advances_of_advance hconn)

theorem length_le_of_answers {downloadBytes : Option ℕ}
    {response : List UInt8} (h : Answers downloadBytes response) :
    response.length ≤ readChunk + downloadBytes.getD 0 := by
  cases downloadBytes with
  | none => exact h
  | some wanted => exact h.2

/-- The connections of a task stay within its weight. -/
theorem Within.measure (h : Within params s) {downloadBytes : Option ℕ}
    {streams : ℕ} {rest : List Task}
    (htodo : s.todo = .measure downloadBytes streams :: rest)
    {responses : List (List UInt8)} (hlength : responses.length = streams)
    (hanswers : ∀ response ∈ responses, Answers downloadBytes response) :
    Within params
      { s with
        streams := s.streams ++ responses.map fun response =>
          ⟨⟨downloadBytes, .opening⟩, response⟩
        todo := rest } := by
  have hcapacity : ((responses.map fun response =>
      (⟨⟨downloadBytes, .opening⟩, response⟩ : Stream)).map fun stream =>
        capacity stream.conn.downloadBytes).sum =
      streams * capacity downloadBytes := by
    rw [List.map_map, ← hlength]
    change (responses.map fun _ => capacity downloadBytes).sum = _
    rw [List.map_const', List.sum_replicate_nat]
  have hunread : ((responses.map fun response =>
      (⟨⟨downloadBytes, .opening⟩, response⟩ : Stream)).map fun stream =>
        stream.unread.length).sum ≤
      ((responses.map fun response =>
        (⟨⟨downloadBytes, .opening⟩, response⟩ : Stream)).map
          Stream.due).sum := by
    rw [List.map_map, List.map_map]
    refine List.sum_le_sum fun response hresponse => ?_
    have hle := length_le_of_answers (hanswers response hresponse)
    exact hle.trans (Nat.le_add_left _ _)
  have hheld : ((responses.map fun response =>
      (⟨⟨downloadBytes, .opening⟩, response⟩ : Stream)).map fun stream =>
        stream.conn.next.held).sum = 0 := by
    refine List.sum_eq_zero fun amount hamount => ?_
    rw [List.map_map] at hamount
    obtain ⟨response, -, rfl⟩ := List.mem_map.mp hamount
    rfl
  have hplanned := h.planned
  have haccount := h.account
  have hheldAll := h.held
  rw [htodo, weight_cons, Task.weight] at hplanned
  refine ⟨h.ceiling, ?_, ?_, ?_, ?_, h.complete⟩
  · dsimp only
    rw [List.map_append, List.sum_append, hcapacity]
    omega
  · dsimp only
    rw [List.map_append, List.sum_append, List.map_append, List.sum_append]
    omega
  · dsimp only
    rw [List.map_append, List.sum_append, hheld]
    omega
  · intro stream hstream
    rcases List.mem_append.mp hstream with hold | hnew
    · exact h.unharmed stream hold
    · obtain ⟨response, -, rfl⟩ := List.mem_map.mp hnew
      exact unharmed_of_idle rfl nofun nofun

/-- A task stays within the plan. -/
theorem Within.perform (h : Within params s)
    (hplan : weight params (plan params) < transferCeilingBytes)
    {cancelled positive : Bool} {responses : List (List UInt8)}
    (hperform : s.perform params cancelled responses positive = some t) :
    Within params t := by
  have hplanned := h.planned
  cases htodo : s.todo with
  | nil => simp only [Run.perform, htodo, reduceCtorEq] at hperform
  | cons task rest =>
      rw [htodo, weight_cons] at hplanned
      cases task with
      | measure downloadBytes streams =>
          simp only [Run.perform, htodo] at hperform
          split_ifs at hperform with hanswers
          obtain rfl := Option.some.inj hperform
          exact h.measure htodo hanswers.1 hanswers.2
      | shape streams =>
          simp only [Run.perform, htodo] at hperform
          rw [if_neg (Nat.not_le.mpr (h.spent_lt hplan))] at hperform
          obtain rfl := Option.some.inj hperform
          refine ⟨h.ceiling, ?_, h.account, h.held, h.unharmed, h.complete⟩
          dsimp only
          rwa [weight_append, weight_downloadReps]
      | _ =>
          simp only [Run.perform, htodo, Option.some.injEq] at hperform
          obtain rfl := hperform
          refine ⟨h.ceiling, ?_, h.account, h.held, h.unharmed, h.complete⟩
          dsimp only
          omega

theorem Within.step (h : Within params s)
    (hplan : weight params (plan params) < transferCeilingBytes)
    {action : Action} (hstep : s.step params action = some t) :
    Within params t := by
  cases action with
  | step i event =>
      obtain ⟨stream, hstream, hstep⟩ := Option.bind_eq_some_iff.mp hstep
      obtain ⟨⟨budget, stream'⟩, hadvance, hstep⟩ :=
        Option.bind_eq_some_iff.mp hstep
      obtain rfl := Option.some.inj hstep
      exact h.advance hplan hstream hadvance
  | proceed cancelled responses positive =>
      simp only [Run.step] at hstep
      split_ifs at hstep
      exact h.perform hplan hstep

theorem weight_replicate (params : ModuleParams) (count : ℕ) (task : Task) :
    weight params (List.replicate count task) = count * task.weight params := by
  rw [weight, List.map_replicate, List.sum_replicate_nat]

theorem weight_latencyRep (params : ModuleParams) (rep : ℕ) :
    weight params (latencyRep params rep) = endpointCount * capacity none := by
  rw [latencyRep, weight_append, weight_cons, weight_replicate]
  simp only [weight, Task.weight, List.map_cons, List.map_nil, List.sum_cons,
    List.sum_nil, Nat.one_mul, Nat.zero_add, Nat.add_zero]

theorem weight_latencyReps (params : ModuleParams) (reps : List ℕ) :
    weight params (reps.flatMap (latencyRep params)) =
      reps.length * (endpointCount * capacity none) := by
  induction reps with
  | nil => exact (Nat.zero_mul _).symm
  | cons rep reps ih =>
      rw [List.flatMap_cons, weight_append, weight_latencyRep, ih,
        List.length_cons, Nat.succ_mul, Nat.add_comm]

/-- The reachability probe, the latency repetitions, and both shapes. -/
theorem weight_plan (params : ModuleParams) :
    weight params (plan params) =
      capacity none + params.reps * (endpointCount * capacity none) +
        params.reps *
          ((1 + parallelStreams) * capacity (some (downloadBytes params))) := by
  rw [plan, latencyTasks, weight_append, weight_append, weight_latencyReps,
    List.length_range]
  simp only [weight, Task.weight, List.map_cons, List.map_nil, List.sum_cons,
    List.sum_nil, Nat.one_mul, Nat.zero_add, Nat.add_zero]
  rw [Nat.add_mul 1, Nat.one_mul, Nat.mul_add]

theorem downloadBytes_le (params : ModuleParams) :
    downloadBytes params ≤ maxDownloadBytes :=
  max_le (by decide) (min_le_right _ _)

/-- Up to twelve repetitions the largest downloads leave room for the rest. -/
theorem weight_plan_lt (h : params.reps ≤ 12) :
    weight params (plan params) < transferCeilingBytes := by
  have hdownload := downloadBytes_le params
  have hreps := Nat.mul_le_mul_right (endpointCount * capacity none) h
  have hshapes := Nat.mul_le_mul h (Nat.mul_le_mul_left (1 + parallelStreams)
    (Nat.add_le_add_left hdownload (2 * readChunk)))
  rw [weight_plan]
  refine lt_of_le_of_lt
    (Nat.add_le_add (Nat.add_le_add_left hreps _) hshapes) ?_
  decide

/-- A plan below the ceiling is never cut short. -/
theorem fitsCeiling_of_weight_lt
    (hplan : weight params (plan params) < transferCeilingBytes)
    (hs : (system params).Reachable s) : FitsCeiling s := by
  have hwithin : Within params s := by
    refine hs.invariant ?_ fun _ _ _ hwithin _ hstep => hwithin.step hplan hstep
    rintro s rfl
    exact within_start params
  exact ⟨fun stream hstream _ => (hwithin.unharmed stream hstream).whole,
    hwithin.complete⟩

/-! ## Runs that end before a download -/

/-- A task of the latency shapes. -/
def IsEarly : Task → Prop
  | .measure downloadBytes _ => downloadBytes = none
  | .judge | .shape _ => False
  | _ => True

/-- Nothing has been downloaded, and the samples to come are not enough. -/
structure Early (params : ModuleParams) (s : Run) : Prop where
  probes : ∀ stream ∈ s.streams, stream.conn.downloadBytes = none
  complete : s.curtailed = false
  latency : s.ended = true ∨ ∃ front,
    s.todo = front ++ [.judge, .cancellation, .shape 1, .cancellation,
      .shape parallelStreams] ∧
    (∀ task ∈ front, IsEarly task) ∧
    s.connected + front.count (.sample true) ≤ params.measuredReps

theorem count_sample_latencyRep (params : ModuleParams) (rep : ℕ) :
    (latencyRep params rep).count (.sample true) =
      if params.warmupReps ≤ rep then 1 else 0 := by
  rw [latencyRep, List.count_append, List.count_cons_of_ne (by simp),
    List.count_replicate, if_neg (by simp), Nat.zero_add]
  by_cases hmeasured : params.warmupReps ≤ rep
  · rw [if_pos hmeasured, decide_eq_true hmeasured]
    rfl
  · rw [if_neg hmeasured, decide_eq_false hmeasured]
    rfl

/-- There are as many samples as measured repetitions. -/
theorem count_sample_latencyTasks (params : ModuleParams) :
    (latencyTasks params).count (.sample true) = params.measuredReps := by
  have hcount : ∀ reps : ℕ,
      ((List.range reps).flatMap (latencyRep params)).count (.sample true) =
        reps - params.warmupReps := by
    intro reps
    induction reps with
    | zero => exact (Nat.zero_sub _).symm
    | succ reps ih =>
        rw [List.range_succ, List.flatMap_append, List.count_append, ih,
          List.flatMap_singleton, count_sample_latencyRep]
        split_ifs
        · omega
        · omega
  rw [latencyTasks, List.count_append, hcount, ModuleParams.reps,
    Nat.add_sub_cancel_left]
  exact Nat.zero_add _

theorem isEarly_of_mem_latencyTasks {params : ModuleParams} {task : Task}
    (h : task ∈ latencyTasks params) : IsEarly task := by
  rw [latencyTasks, List.mem_append, List.mem_flatMap] at h
  obtain h | ⟨rep, -, h⟩ := h
  · rcases List.mem_pair.mp h with rfl | rfl
    · exact rfl
    · trivial
  · rw [latencyRep, List.mem_append, List.mem_cons, List.mem_replicate,
      List.mem_singleton] at h
    obtain (rfl | ⟨-, rfl⟩) | rfl := h
    · trivial
    · exact rfl
    · trivial

theorem early_start (params : ModuleParams) :
    Early params (start params) where
  probes := fun stream hstream => absurd hstream List.not_mem_nil
  complete := rfl
  latency := .inr ⟨latencyTasks params, rfl,
    fun task htask => isEarly_of_mem_latencyTasks htask, by
      rw [count_sample_latencyTasks]
      exact (Nat.zero_add _).le⟩

/-- With few measured repetitions no task leads to a download. -/
theorem Early.perform (h : Early params s) (hended : s.ended = false)
    (hfew : params.measuredReps < minSamples) {cancelled positive : Bool}
    {responses : List (List UInt8)}
    (hperform : s.perform params cancelled responses positive = some t) :
    Early params t := by
  obtain hended' | ⟨front, htodo, hearly, hcount⟩ := h.latency
  · exact absurd (hended'.symm.trans hended) nofun
  cases front with
  | nil =>
      rw [List.nil_append] at htodo
      simp only [Run.perform, htodo, Option.some.injEq] at hperform
      obtain rfl := hperform
      refine ⟨h.probes, h.complete, .inl ?_⟩
      rw [List.count_nil, Nat.add_zero] at hcount
      exact decide_eq_true (lt_of_le_of_lt hcount hfew)
  | cons task front =>
      rw [List.cons_append] at htodo
      have hrest : ∀ other ∈ front, IsEarly other :=
        fun other hother => hearly other (List.mem_cons_of_mem _ hother)
      have htask := hearly task List.mem_cons_self
      cases task with
      | measure downloadBytes streams =>
          rw [List.count_cons_of_ne (by simp)] at hcount
          simp only [Run.perform, htodo] at hperform
          split_ifs at hperform with hanswers
          obtain rfl := Option.some.inj hperform
          refine ⟨fun stream hstream => ?_, h.complete,
            .inr ⟨front, rfl, hrest, hcount⟩⟩
          rcases List.mem_append.mp hstream with hold | hnew
          · exact h.probes stream hold
          · obtain ⟨response, -, rfl⟩ := List.mem_map.mp hnew
            exact htask
      | sample measured =>
          simp only [Run.perform, htodo, Option.some.injEq] at hperform
          obtain rfl := hperform
          refine ⟨h.probes, h.complete, .inr ⟨front, rfl, hrest, ?_⟩⟩
          dsimp only
          cases measured with
          | false =>
              rw [List.count_cons_of_ne (by simp)] at hcount
              exact hcount
          | true =>
              rw [List.count_cons_self] at hcount
              split_ifs
              · omega
              · omega
      | judge => exact htask.elim
      | shape streams => exact htask.elim
      | cancellation =>
          rw [List.count_cons_of_ne (by simp)] at hcount
          simp only [Run.perform, htodo, Option.some.injEq] at hperform
          obtain rfl := hperform
          exact ⟨h.probes, h.complete, .inr ⟨front, rfl, hrest, hcount⟩⟩
      | reachable =>
          rw [List.count_cons_of_ne (by simp)] at hcount
          simp only [Run.perform, htodo, Option.some.injEq] at hperform
          obtain rfl := hperform
          exact ⟨h.probes, h.complete, .inr ⟨front, rfl, hrest, hcount⟩⟩

theorem Early.step (h : Early params s)
    (hfew : params.measuredReps < minSamples) {action : Action}
    (hstep : s.step params action = some t) : Early params t := by
  cases action with
  | step i event =>
      obtain ⟨stream, hstream, hstep⟩ := Option.bind_eq_some_iff.mp hstep
      obtain ⟨⟨budget, stream'⟩, hadvance, hstep⟩ :=
        Option.bind_eq_some_iff.mp hstep
      obtain rfl := Option.some.inj hstep
      obtain ⟨read, next, -, rfl, -⟩ := Stream.exists_of_advance hadvance
      refine ⟨fun other hother => ?_, h.complete, h.latency⟩
      rcases List.mem_or_eq_of_mem_set hother with hold | rfl
      · exact h.probes other hold
      · exact h.probes stream (List.mem_of_getElem? hstream)
  | proceed cancelled responses positive =>
      simp only [Run.step] at hstep
      split_ifs at hstep with hready
      rw [Bool.not_eq_true, Bool.or_eq_false_iff] at hready
      exact h.perform hready.1 hfew hstep

/-- With few measured repetitions nothing is downloaded. -/
theorem fitsCeiling_of_measuredReps_lt
    (hfew : params.measuredReps < minSamples)
    (hs : (system params).Reachable s) : FitsCeiling s := by
  have hearly : Early params s := by
    refine hs.invariant ?_ fun _ _ _ hearly _ hstep => hearly.step hfew hstep
    rintro s rfl
    exact early_start params
  refine ⟨fun stream hstream hdownload => ?_, hearly.complete⟩
  rw [hearly.probes stream hstream] at hdownload
  exact absurd hdownload nofun

end Run

end NetworkTransfer

end Darcbench
