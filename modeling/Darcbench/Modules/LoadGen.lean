import Darcbench.Support.Runs
import Mathlib.Data.Fintype.Basic
import Mathlib.Data.Rat.Floor
import Mathlib.Tactic.Linarith

/-!
# The load generator

A phase of load is a schedule of requests.  Workers take the indices of the
schedule from one counter, and the time at which a request is owed depends on
its index alone.  What a worker observes goes to its own buffer, and the
buffers are merged when all workers have returned.

Times are seconds, and the arithmetic on them is exact.
-/

namespace Darcbench

/-! ## The plan -/

/-- What the generator was asked to produce. -/
structure LoadPlan where
  /-- Without a value when the rate is not finite. -/
  ratePerS : Option ℚ
  duration : ℚ≥0
  workers : ℕ
  warmup : ℕ

namespace LoadPlan

def minRatePerS : ℚ := 1 / 1000

def maxRatePerS : ℚ := 10000000

def rate (plan : LoadPlan) : ℚ :=
  match plan.ratePerS with
  | none => minRatePerS
  | some rate => max minRatePerS (min rate maxRatePerS)

/-- The requests that the schedule owes, in 64 bits and at least one. -/
def scheduled (plan : LoadPlan) : ℕ :=
  let count := plan.rate * plan.duration
  if 1 ≤ count then min ⌊count⌋.toNat (2 ^ 64 - 1) else 1

def period (plan : LoadPlan) : ℚ :=
  1 / plan.rate

/-- The workers that are started. -/
def workerCount (plan : LoadPlan) : ℕ :=
  max plan.workers 1

end LoadPlan

/-- Zero if `earlier` is not the earlier one. -/
def saturatingDurationSince (later earlier : ℚ) : ℚ :=
  max (later - earlier) 0

def millis (duration : ℚ) : ℚ :=
  duration * 1000

/-- In milliseconds. -/
def schedulerNoiseFloorMs : ℚ := 1

/-! ## Requests -/

/-- What the target gives for a request: the bytes received, or an error. -/
abbrev RequestResult :=
  Except String UInt64

/-- A request as it was sent. -/
structure LoadRequest where
  index : ℕ
  due : ℚ
  sent : ℚ
  deriving DecidableEq

/-- A request that has been answered. -/
structure LoadAnswer where
  request : LoadRequest
  done : ℚ
  outcome : RequestResult
  deriving DecidableEq

namespace LoadAnswer

/-- How late the request went out. -/
def slip (answer : LoadAnswer) : ℚ :=
  saturatingDurationSince answer.request.sent answer.request.due

/-- What the target took. -/
def service (answer : LoadAnswer) : ℚ :=
  saturatingDurationSince answer.done answer.request.sent

/-- What a client on the schedule saw. -/
def response (answer : LoadAnswer) : ℚ :=
  saturatingDurationSince answer.done answer.request.due

def isOk (answer : LoadAnswer) : Bool :=
  answer.outcome.isOk

/-- The bytes of a success. -/
def okBytes (answer : LoadAnswer) : UInt64 :=
  match answer.outcome with
  | .ok bytes => bytes
  | .error _ => 0

end LoadAnswer

/-! ## Samples -/

structure Samples where
  serviceMs : List ℚ
  responseMs : List ℚ
  slipMs : List ℚ
  errors : ℕ
  errorExamples : List String
  bytes : UInt64

namespace Samples

def empty : Samples :=
  { serviceMs := [], responseMs := [], slipMs := [], errors := 0,
    errorExamples := [], bytes := 0 }

/-- Three examples are kept. -/
def pushExample (examples : List String) (error : String) : List String :=
  if examples.length < 3 then examples ++ [error] else examples

/-- What a worker writes down when a request has been answered.  The sum of the
bytes has 64 bits. -/
def record (samples : Samples) (answer : LoadAnswer) : Samples :=
  let samples :=
    { samples with slipMs := samples.slipMs ++ [millis answer.slip] }
  match answer.outcome with
  | .ok bytes =>
      { samples with
        bytes := samples.bytes + bytes
        serviceMs := samples.serviceMs ++ [millis answer.service]
        responseMs := samples.responseMs ++ [millis answer.response] }
  | .error error =>
      { samples with
        errors := samples.errors + 1
        errorExamples := pushExample samples.errorExamples error }

def merge (samples other : Samples) : Samples where
  serviceMs := samples.serviceMs ++ other.serviceMs
  responseMs := samples.responseMs ++ other.responseMs
  slipMs := samples.slipMs ++ other.slipMs
  errors := samples.errors + other.errors
  errorExamples := other.errorExamples.foldl pushExample samples.errorExamples
  bytes := samples.bytes + other.bytes

/-- The samples of a list of answers. -/
def ofAnswers (answers : List LoadAnswer) : Samples :=
  answers.foldl record empty

theorem ofAnswers_concat (answers : List LoadAnswer) (answer : LoadAnswer) :
    ofAnswers (answers ++ [answer]) = (ofAnswers answers).record answer := by
  rw [ofAnswers, List.foldl_append]
  rfl

theorem le_length_foldl_pushExample (examples others : List String) :
    min 3 (examples.length + others.length) ≤
      (others.foldl pushExample examples).length := by
  induction others generalizing examples with
  | nil => simp
  | cons error others ih =>
      rw [List.foldl_cons]
      refine le_trans ?_ (ih _)
      by_cases hfull : examples.length < 3
      · rw [pushExample, if_pos hfull]
        simp only [List.length_cons, List.length_append, List.length_nil]
        omega
      · rw [pushExample, if_neg hfull]
        omega

/-- Examples that a buffer dropped would not have been kept in the merge. -/
theorem foldl_pushExample_pushExample
    (examples others : List String) (error : String) :
    (pushExample others error).foldl pushExample examples =
      pushExample (others.foldl pushExample examples) error := by
  by_cases hfull : others.length < 3
  · rw [pushExample, if_pos hfull, List.foldl_append]
    rfl
  · have hlength := le_length_foldl_pushExample examples others
    have hmerged : ¬ (others.foldl pushExample examples).length < 3 := by
      omega
    rw [pushExample, if_neg hfull, pushExample, if_neg hmerged]

theorem merge_record (samples other : Samples) (answer : LoadAnswer) :
    samples.merge (other.record answer) =
      (samples.merge other).record answer := by
  unfold record
  cases answer.outcome with
  | ok bytes => simp [merge, UInt64.add_assoc]
  | error error =>
      simp [merge, foldl_pushExample_pushExample, Nat.add_assoc]

theorem merge_empty (samples : Samples) :
    samples.merge empty = samples := by
  simp [merge, empty]

/-- The merge of the samples of two workers is the samples of their answers. -/
theorem merge_ofAnswers (first second : List LoadAnswer) :
    (ofAnswers first).merge (ofAnswers second) =
      ofAnswers (first ++ second) := by
  induction second using List.reverseRecOn with
  | nil => rw [List.append_nil]; exact merge_empty _
  | append_singleton second answer ih =>
      rw [ofAnswers_concat, merge_record, ih, ← List.append_assoc,
        ofAnswers_concat]

/-- Merging the buffers one after another gives the samples of all answers. -/
theorem foldl_merge_ofAnswers
    (answers : List LoadAnswer) (logs : List (List LoadAnswer)) :
    (logs.map ofAnswers).foldl merge (ofAnswers answers) =
      ofAnswers (answers ++ logs.flatten) := by
  induction logs generalizing answers with
  | nil => simp
  | cons log logs ih =>
      rw [List.map_cons, List.foldl_cons, merge_ofAnswers, ih,
        List.flatten_cons, List.append_assoc]

theorem slipMs_ofAnswers (answers : List LoadAnswer) :
    (ofAnswers answers).slipMs = answers.map fun a => millis a.slip := by
  induction answers using List.reverseRecOn with
  | nil => rfl
  | append_singleton answers answer ih =>
      rw [ofAnswers_concat, List.map_append, ← ih, record]
      cases answer.outcome <;> rfl

theorem serviceMs_ofAnswers (answers : List LoadAnswer) :
    (ofAnswers answers).serviceMs =
      (answers.filter LoadAnswer.isOk).map fun a => millis a.service := by
  induction answers using List.reverseRecOn with
  | nil => rfl
  | append_singleton answers answer ih =>
      rw [ofAnswers_concat, List.filter_append, List.map_append, ← ih, record]
      cases h : answer.outcome <;>
        simp [LoadAnswer.isOk, h, Except.isOk, Except.toBool]

theorem responseMs_ofAnswers (answers : List LoadAnswer) :
    (ofAnswers answers).responseMs =
      (answers.filter LoadAnswer.isOk).map fun a => millis a.response := by
  induction answers using List.reverseRecOn with
  | nil => rfl
  | append_singleton answers answer ih =>
      rw [ofAnswers_concat, List.filter_append, List.map_append, ← ih, record]
      cases h : answer.outcome <;>
        simp [LoadAnswer.isOk, h, Except.isOk, Except.toBool]

theorem errors_ofAnswers (answers : List LoadAnswer) :
    (ofAnswers answers).errors =
      (answers.filter fun a => !a.isOk).length := by
  induction answers using List.reverseRecOn with
  | nil => rfl
  | append_singleton answers answer ih =>
      rw [ofAnswers_concat, List.filter_append, List.length_append, ← ih,
        record]
      cases h : answer.outcome <;>
        simp [LoadAnswer.isOk, h, Except.isOk, Except.toBool]

/-- The bytes are the sum of the successes in 64 bits. -/
theorem toNat_bytes_ofAnswers (answers : List LoadAnswer) :
    (ofAnswers answers).bytes.toNat =
      (answers.map fun a => a.okBytes.toNat).sum % 2 ^ 64 := by
  induction answers using List.reverseRecOn with
  | nil => rfl
  | append_singleton answers answer ih =>
      rw [ofAnswers_concat, List.map_append, List.sum_append, record]
      cases h : answer.outcome with
      | ok bytes =>
          simp [LoadAnswer.okBytes, h, ih, UInt64.toNat_add]
      | error error =>
          simp [LoadAnswer.okBytes, h, ih]

end Samples

/-! ## The outcome -/

inductive Saturation where
  | none
  | scheduleSlip
  | rateShortfall
  | allWorkersBusy
  deriving DecidableEq

/-- What one phase of load produced. -/
structure LoadOutcome where
  scheduled : ℕ
  warmupCompleted : ℕ
  completed : ℕ
  errors : ℕ
  errorExamples : List String
  bytes : UInt64
  serviceMs : List ℚ
  responseMs : List ℚ
  slipMs : List ℚ
  achievedRatePerS : ℚ
  generatorCpuPct : ℚ
  workerStarvation : ℕ
  saturation : Saturation

def rateShortfallTolerance : ℚ := 1 / 20

def slipTolerancePeriods : ℚ := 1 / 2

def loadMean (values : List ℚ) : ℚ :=
  if values.isEmpty then 0 else values.sum / values.length

/-- Decides whether the generator kept its promise. -/
def classify (outcome : LoadOutcome) (plan : LoadPlan) : Saturation :=
  if (outcome.workerStarvation : ℚ) >
      outcome.scheduled * rateShortfallTolerance then
    .allWorkersBusy
  else if loadMean outcome.slipMs >
      max (plan.period * 1000 * slipTolerancePeriods)
        schedulerNoiseFloorMs then
    .scheduleSlip
  else if (outcome.completed : ℚ) <
      outcome.scheduled * (1 - rateShortfallTolerance) then
    .rateShortfall
  else
    .none

/-- The smallest normal number of 64 bits. -/
def minPositive : ℚ := 1 / 2 ^ 1022

/-! ## The workers -/

/-- Where a worker is in its loop. -/
inductive LoadWorker where
  | fetching
  /-- It has taken an index, and looks at the clock next. -/
  | due (index : ℕ)
  | sleeping (index : ℕ)
  | ready (index : ℕ)
  | requesting (request : LoadRequest)
  | answered (request : LoadRequest) (outcome : RequestResult)
  /-- It has read the clock again, and writes down what it saw next. -/
  | stamped (answer : LoadAnswer)
  | returned
  deriving DecidableEq

/-- A phase of load.  The requests that went out are in `issued`, in order, and
`log` has the answers that each worker has written down. -/
structure LoadRun (plan : LoadPlan) where
  warmupCompleted : ℕ
  started : ℚ
  clock : ℚ
  next : ℕ
  starvation : ℕ
  worker : Fin plan.workerCount → LoadWorker
  perWorker : Fin plan.workerCount → Samples
  issued : List LoadRequest
  log : Fin plan.workerCount → List LoadAnswer

namespace LoadRun

variable {plan : LoadPlan}

/-- The warm-up requests that were answered with a success. -/
def warmUp (results : List RequestResult) : ℕ :=
  results.foldl (fun completed result =>
    if result.isOk then completed + 1 else completed) 0

/-- The phase after the warm-up. -/
def start (plan : LoadPlan) (results : List RequestResult) (now : ℚ) :
    LoadRun plan where
  warmupCompleted := warmUp results
  started := now
  clock := now
  next := 0
  starvation := 0
  worker := fun _ => .fetching
  perWorker := fun _ => .empty
  issued := []
  log := fun _ => []

/-- When the request with an index is owed. -/
def dueOf (s : LoadRun plan) (index : ℕ) : ℚ :=
  s.started + plan.period * index

def starvationThreshold (plan : LoadPlan) : ℚ :=
  max plan.period (schedulerNoiseFloorMs / 1000)

/-- The worker goes on at `phase`. -/
def enter (s : LoadRun plan) (w : Fin plan.workerCount) (phase : LoadWorker) :
    LoadRun plan :=
  { s with worker := Function.update s.worker w phase }

def fetch (s : LoadRun plan) (w : Fin plan.workerCount) :
    Option (LoadRun plan) :=
  match s.worker w with
  | .fetching =>
      some <| { s with next := s.next + 1 }.enter w <|
        if plan.scheduled ≤ s.next then .returned else .due s.next
  | _ => none

/-- Compares the clock with the time at which the request is owed. -/
def look (s : LoadRun plan) (w : Fin plan.workerCount) :
    Option (LoadRun plan) :=
  match s.worker w with
  | .due index =>
      if s.clock < s.dueOf index then
        some (s.enter w (.sleeping index))
      else if starvationThreshold plan < s.clock - s.dueOf index then
        some ({ s with starvation := s.starvation + 1 }.enter w (.ready index))
      else
        some (s.enter w (.ready index))
  | _ => none

/-- A sleep does not return before the request is owed. -/
def wake (s : LoadRun plan) (w : Fin plan.workerCount) :
    Option (LoadRun plan) :=
  match s.worker w with
  | .sleeping index =>
      if s.dueOf index ≤ s.clock then some (s.enter w (.ready index)) else none
  | _ => none

def send (s : LoadRun plan) (w : Fin plan.workerCount) :
    Option (LoadRun plan) :=
  match s.worker w with
  | .ready index =>
      let request := ⟨index, s.dueOf index, s.clock⟩
      some ({ s with issued := s.issued ++ [request] }.enter w
        (.requesting request))
  | _ => none

/-- The target returns. -/
def answer (s : LoadRun plan) (w : Fin plan.workerCount)
    (outcome : RequestResult) : Option (LoadRun plan) :=
  match s.worker w with
  | .requesting request => some (s.enter w (.answered request outcome))
  | _ => none

def stamp (s : LoadRun plan) (w : Fin plan.workerCount) :
    Option (LoadRun plan) :=
  match s.worker w with
  | .answered request outcome =>
      some (s.enter w (.stamped ⟨request, s.clock, outcome⟩))
  | _ => none

/-- Writes into the worker's own buffer. -/
def record (s : LoadRun plan) (w : Fin plan.workerCount) :
    Option (LoadRun plan) :=
  match s.worker w with
  | .stamped answer =>
      some ({ s with
        perWorker := Function.update s.perWorker w
          ((s.perWorker w).record answer)
        log := Function.update s.log w (s.log w ++ [answer]) }.enter w
          .fetching)
  | _ => none

/-- Time passes. -/
def pass (s : LoadRun plan) (duration : ℚ) : Option (LoadRun plan) :=
  if 0 ≤ duration then some { s with clock := s.clock + duration } else none

inductive Action (plan : LoadPlan) where
  | pass (duration : ℚ)
  | fetch (w : Fin plan.workerCount)
  | look (w : Fin plan.workerCount)
  | wake (w : Fin plan.workerCount)
  | send (w : Fin plan.workerCount)
  | answer (w : Fin plan.workerCount) (outcome : RequestResult)
  | stamp (w : Fin plan.workerCount)
  | record (w : Fin plan.workerCount)

def step (s : LoadRun plan) : Action plan → Option (LoadRun plan)
  | .pass duration => s.pass duration
  | .fetch w => s.fetch w
  | .look w => s.look w
  | .wake w => s.wake w
  | .send w => s.send w
  | .answer w outcome => s.answer w outcome
  | .stamp w => s.stamp w
  | .record w => s.record w

/-- The warm-up makes as many requests as the plan says, and the target answers
each of them as it likes. -/
def system (plan : LoadPlan) : TransitionSystem (LoadRun plan) (Action plan) where
  initial s := ∃ results : List RequestResult, ∃ now,
    results.length = plan.warmup ∧ s = start plan results now
  step := step

/-- All workers have returned. -/
def Finished (s : LoadRun plan) : Prop :=
  ∀ w, s.worker w = .returned

/-- The answers of all workers, in the order of the merge. -/
def answers (s : LoadRun plan) : List LoadAnswer :=
  (List.finRange plan.workerCount).flatMap s.log

/-- What is returned when all workers have. -/
def outcome (s : LoadRun plan) (cpuUsed : ℚ) : LoadOutcome :=
  let samples := ((List.finRange plan.workerCount).map s.perWorker).foldl
    Samples.merge Samples.empty
  let seconds := max (s.clock - s.started) minPositive
  let outcome : LoadOutcome :=
    { scheduled := plan.scheduled
      warmupCompleted := s.warmupCompleted
      completed := samples.responseMs.length
      errors := samples.errors
      errorExamples := samples.errorExamples
      bytes := samples.bytes
      serviceMs := samples.serviceMs
      responseMs := samples.responseMs
      slipMs := samples.slipMs
      achievedRatePerS := samples.responseMs.length / seconds
      generatorCpuPct := cpuUsed / seconds * 100
      workerStarvation := s.starvation
      saturation := .none }
  { outcome with saturation := classify outcome plan }

end LoadRun

end Darcbench
