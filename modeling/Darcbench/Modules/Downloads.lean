import Darcbench.Modules.Repetitions
import Darcbench.Modules.TransferExceeds
import Darcbench.Protocol.Rounding

/-!
# The sample of a download repetition

A repetition downloads on several connections at once.  Each that succeeds gives
a rate, and the sample is their sum.
-/

namespace Darcbench

/-! ## The response to a download -/

/-- What a connection does after some steps. -/
def Connection.follow (downloadBytes : Option ℕ) (start : Measuring)
    (steps : List (Budget × Connection.Event)) : Option Measuring :=
  steps.foldlM (fun next (budget, event) =>
    (Connection.advance budget ⟨downloadBytes, next⟩ event).map (·.2.2)) start

theorem Connection.follow_cons (downloadBytes : Option ℕ) (start : Measuring)
    (budget : Budget) (event : Connection.Event)
    (rest : List (Budget × Connection.Event)) :
    follow downloadBytes start ((budget, event) :: rest) =
      (advance budget ⟨downloadBytes, start⟩ event).bind fun after =>
        follow downloadBytes after.2.2 rest := by
  rw [follow, List.foldlM_cons, Option.bind_eq_bind, Option.bind_map]
  rfl

/-- The bytes that were read. -/
def Connection.Event.bytes : Connection.Event → Option (List UInt8)
  | .read (.ok bytes) => some bytes
  | _ => none

/-- What is known of the first bytes of the response while a connection
measures. -/
def Measuring.Answered (head : Option (List UInt8)) : Measuring → Prop
  | .opening | .reserving .head _ | .reading .head _ => head = none
  | .refunding .head _ (.ok bytes) => head = some bytes
  | .refunding .head _ _ => True
  | .looping _ | .reserving (.body _) _ | .reading (.body _) _
  | .refunding (.body _) _ _ | .finished (.ok _) =>
      head.bind httpStatus = some 200
  | .finished (.error _) => True

theorem Connection.answered_afterHead (wanted : ℕ) (bytes : List UInt8) :
    (afterHead (some wanted) (.ok bytes)).Answered (some bytes) := by
  cases bytes with
  | nil => trivial
  | cons b rest =>
      rw [afterHead]
      · cases hstatus : httpStatus (b :: rest) with
        | none => trivial
        | some status =>
            dsimp only
            by_cases hok : status = 200
            · subst hok
              cases headerEnd (b :: rest) with
              | none => trivial
              | some offset => exact hstatus
            · rw [if_pos (by simpa using hok)]
              trivial
      · exact List.cons_ne_nil b rest

theorem Connection.answered_afterBody {head : Option (List UInt8)} (total : ℕ)
    (h : head.bind httpStatus = some 200) (outcome : ReadOutcome) :
    (afterBody total outcome).Answered head := by
  cases outcome with
  | ok bytes => cases bytes <;> exact h
  | unexpectedEof => exact h
  | error => trivial

/-- What is known of the head is not forgotten. -/
theorem orElse_of_bind {head more : Option (List UInt8)}
    (h : head.bind httpStatus = some 200) :
    (head <|> more).bind httpStatus = some 200 := by
  cases head with
  | none => cases h
  | some bytes => exact h

/-- A step of a download keeps what is known of the response. -/
theorem Measuring.Answered.advance {head : Option (List UInt8)} {wanted : ℕ}
    {budget : Budget} {next : Measuring} {event : Connection.Event}
    {after : Budget × ℕ × Measuring} (h : next.Answered head)
    (hstep : Connection.advance budget ⟨some wanted, next⟩ event =
      some after) :
    after.2.2.Answered (head <|> event.bytes) := by
  cases event with
  | opened failed =>
      cases next with
      | opening =>
          obtain rfl := Option.some.inj hstep
          cases failed
          · rw [h]
            exact Eq.refl _
          · trivial
      | _ => cases hstep
  | goOn =>
      cases next with
      | looping total =>
          obtain rfl := Option.some.inj hstep
          dsimp only
          split
          · exact orElse_of_bind h
          · exact orElse_of_bind h
      | _ => cases hstep
  | load =>
      cases next with
      | reserving site current =>
          cases current with
          | none =>
              obtain rfl := Option.some.inj hstep
              cases site with
              | head =>
                  rw [h]
                  exact Eq.refl _
              | body total => exact orElse_of_bind h
          | some current => cases hstep
      | _ => cases hstep
  | exchange spurious =>
      cases next with
      | reserving site current =>
          cases current with
          | none => cases hstep
          | some current =>
              have hsite : ∀ next' : Measuring,
                  next' = Connection.afterRefusal site ∨
                    (∃ granted, next' = .reading site granted) ∨
                    (∃ seen, next' = .reserving site seen) →
                  next'.Answered (head <|> none) := by
                rintro next' (rfl | ⟨granted, rfl⟩ | ⟨seen, rfl⟩)
                · cases site with
                  | head => trivial
                  | body total => exact orElse_of_bind h
                · cases site with
                  | head =>
                      rw [h]
                      exact Eq.refl _
                  | body total => exact orElse_of_bind h
                · cases site with
                  | head =>
                      rw [h]
                      exact Eq.refl _
                  | body total => exact orElse_of_bind h
              refine hsite _ ?_
              simp only [Connection.advance] at hstep
              split at hstep
              · obtain rfl := Option.some.inj hstep
                exact .inl rfl
              · split at hstep
                · obtain rfl := Option.some.inj hstep
                  exact .inr (.inl ⟨_, rfl⟩)
                · obtain rfl := Option.some.inj hstep
                  exact .inr (.inr ⟨_, rfl⟩)
      | _ => cases hstep
  | read outcome =>
      cases next with
      | reading site granted =>
          cases outcome with
          | ok bytes =>
              simp only [Connection.advance] at hstep
              split at hstep
              · obtain rfl := Option.some.inj hstep
                cases site with
                | head =>
                    rw [h]
                    exact Eq.refl _
                | body total => exact orElse_of_bind h
              · cases hstep
          | unexpectedEof =>
              obtain rfl := Option.some.inj hstep
              cases site with
              | head => trivial
              | body total => exact orElse_of_bind h
          | error =>
              obtain rfl := Option.some.inj hstep
              cases site with
              | head => trivial
              | body total => exact orElse_of_bind h
      | _ => cases outcome <;> cases hstep
  | refund =>
      cases next with
      | refunding site bytes outcome =>
          obtain rfl := Option.some.inj hstep
          cases site with
          | head =>
              cases outcome with
              | ok bytes =>
                  rw [h]
                  exact Connection.answered_afterHead wanted bytes
              | unexpectedEof => trivial
              | error => trivial
          | body total =>
              exact Connection.answered_afterBody total (orElse_of_bind h) _
      | _ => cases hstep

namespace NetworkTransfer

/-! ## The rate of one stream -/

/-- A duration in seconds.  Its whole seconds have 64 bits. -/
structure Seconds where
  value : Float
  le_max : value ≤ 18446744073709551616.0

/-- What a connection measured of the body. -/
structure Phases where
  bodyBytes : ℕ
  bodySeconds : Seconds
  /-- The ceiling cut the download short. -/
  truncated : Bool
  isU64 : bodyBytes < 2 ^ 64

/-- Smallest transfer that may be turned into a rate. -/
def minRateBytes : ℕ := 512 * 1024

/-- Shortest transfer that may be turned into a rate. -/
def minRateSeconds : Float := 0.005

/-- The transfer rate, unless the connection cannot support one. -/
def Phases.mbitS (phases : Phases) : Option Float :=
  if phases.truncated || decide (phases.bodyBytes < minRateBytes) ||
      decide (phases.bodySeconds.value < minRateSeconds) then none
  else
    some (Float.ofNat phases.bodyBytes * 8.0 / phases.bodySeconds.value /
      1000000.0)

/-- One attempt to download: the steps of its connection, each with the budget
as it finds it, and how long the body took.  An attempt whose connection has not
come to its end has panicked. -/
structure Attempt where
  steps : List (Budget × Connection.Event)
  bodySeconds : Seconds

namespace Attempt

/-- What the attempt measured, if it succeeded. -/
def measured (wanted : ℕ) (attempt : Attempt) : Option Phases :=
  match Connection.follow (some wanted) .opening attempt.steps with
  | some (.finished (.ok (total, truncated))) =>
      some
        { bodyBytes := total % 2 ^ 64
          bodySeconds := attempt.bodySeconds
          truncated := truncated
          isU64 := Nat.mod_lt _ (Nat.two_pow_pos 64) }
  | _ => none

/-- An error, a panic and a connection without a rate are the same here. -/
def rate (wanted : ℕ) (attempt : Attempt) : Option Float :=
  (attempt.measured wanted).bind Phases.mbitS

/-- The status of the response, from the first bytes that were read. -/
def status (attempt : Attempt) : Option ℕ :=
  (attempt.steps.findSome? fun step => step.2.bytes).bind httpStatus

end Attempt

/-! ## A repetition -/

/-- Downloads on concurrent connections, and gives the rate of each one. -/
def download (wanted : ℕ) (attempts : List Attempt) : List Float :=
  attempts.filterMap (Attempt.rate wanted)

/-- The value of a repetition. -/
def downloadValue (wanted : ℕ) (attempts : List Attempt) : Float :=
  let rates := download wanted attempts
  if rates.isEmpty then 0.0 else F64.sum rates

inductive Shape
  | single
  | multi
  deriving DecidableEq

def Shape.key : Shape → String
  | single => "download.single"
  | multi => "download.multi"

def Shape.streams : Shape → ℕ
  | single => 1
  | multi => parallelStreams

/-- What happens while a shape is measured: the attempts of each repetition,
how long it took, and whether the run is cancelled before it. -/
structure ShapeRun (shape : Shape) where
  attempts : ℕ → Fin shape.streams → Attempt
  elapsedMs : ℕ → Float
  isCancelled : ℕ → Bool

namespace ShapeRun

variable {shape : Shape}

def value (params : ModuleParams) (run : ShapeRun shape) (rep : ℕ) : Float :=
  downloadValue (downloadBytes params) (List.ofFn (run.attempts rep))

def outcome (params : ModuleParams) (run : ShapeRun shape) :
    Except ModuleError (RepOutcome Float) :=
  timeReps params.warmupReps params.measuredReps shape.key run.isCancelled
    fun rep => (run.value params rep, run.elapsedMs rep)

/-- The samples that the statistics of the metric are made of. -/
def usable (outcome : RepOutcome Float) : List Float :=
  outcome.measured.filter fun v => 0.0 < v

/-- The repetitions whose values are usable. -/
def usableReps (params : ModuleParams) (run : ShapeRun shape) : List ℕ :=
  (List.range params.reps).filter fun rep =>
    decide (params.warmupReps ≤ rep) && decide (0.0 < run.value params rep)

end ShapeRun

/-- The value is the sum of the rates of as many responses as there are
attempts, all of them complete and with the status 200. -/
def IsWholeSum {streams : ℕ} (wanted : ℕ) (attempts : Fin streams → Attempt)
    (value : Float) : Prop :=
  ∃ rates : Fin streams → Float, value = F64.sum (List.ofFn rates) ∧
    ∀ i, (attempts i).status = some 200 ∧
      ∃ phases, (attempts i).measured wanted = some phases ∧
        phases.truncated = false ∧ phases.mbitS = some (rates i)

/-! ## What a rate stands for -/

/-- The steps of a download keep what is known of the response. -/
theorem answered_of_follow {wanted : ℕ} {head : Option (List UInt8)}
    {start next : Measuring} {steps : List (Budget × Connection.Event)}
    (h : start.Answered head)
    (hfollow : Connection.follow (some wanted) start steps = some next) :
    next.Answered (head <|> steps.findSome? fun step => step.2.bytes) := by
  induction steps generalizing start head with
  | nil =>
      obtain rfl := Option.some.inj hfollow
      cases head <;> exact h
  | cons step rest ih =>
      rw [Connection.follow_cons, Option.bind_eq_some_iff] at hfollow
      obtain ⟨after, hafter, hrest⟩ := hfollow
      have hnext := ih (h.advance hafter) hrest
      cases head with
      | some bytes => exact hnext
      | none =>
          rw [List.findSome?_cons]
          cases hbytes : step.2.bytes with
          | none => simpa [hbytes] using hnext
          | some bytes => simpa [hbytes] using hnext

/-- Only a response with the status 200 is measured. -/
theorem Attempt.status_of_measured {wanted : ℕ} {attempt : Attempt}
    {phases : Phases} (h : attempt.measured wanted = some phases) :
    attempt.status = some 200 := by
  rw [measured] at h
  split at h
  · next total truncated hfollow =>
      exact @answered_of_follow wanted none .opening _ _ rfl hfollow
  · cases h

/-- A stream delivers a rate exactly when its response is whole. -/
theorem Attempt.exists_of_rate {wanted : ℕ} {attempt : Attempt} {rate : Float}
    (h : attempt.rate wanted = some rate) :
    attempt.status = some 200 ∧
      ∃ phases, attempt.measured wanted = some phases ∧
        phases.truncated = false ∧ phases.mbitS = some rate := by
  obtain ⟨phases, hphases, hrate⟩ := Option.bind_eq_some_iff.mp h
  have hwhole : phases.truncated = false := by
    rw [Phases.mbitS] at hrate
    cases htruncated : phases.truncated with
    | false => rfl
    | true =>
        rw [htruncated] at hrate
        cases hrate
  exact ⟨status_of_measured hphases, phases, hphases, hwhole, hrate⟩

/-! ## Rates are positive -/

open Rounding

theorem within_minRateSeconds : Within minRateSeconds (-8) (-7) := by
  exact @Within.of_unpack minRateSeconds 5764607523034235 (-60) (by decide)
    (by rfl) (by decide) (by decide) (by decide) (by decide)

/-- A duration that is not too short for a rate. -/
theorem Seconds.within {seconds : Seconds}
    (h : ¬ seconds.value < minRateSeconds) : Within seconds.value (-8) 65 := by
  have hmax : Within 18446744073709551616.0 64 65 := by
    exact @Within.of_unpack 18446744073709551616.0 (2 ^ 52) 12 (by decide)
      (by rfl) (by decide) (by decide) (by decide) (by decide)
  have hmin : minRateSeconds ≤ minRateSeconds := by
    decide
  have hlow := F64.le_of_not_lt_of_numbers (F64.isNan_of_le seconds.le_max)
    (F64.isNan_of_le hmin) h
  exact within_minRateSeconds.between hmax hlow seconds.le_max

theorem Phases.within_of_mbitS {phases : Phases} {rate : Float}
    (h : phases.mbitS = some rate) : Within rate (-82) 57 := by
  rw [mbitS, Option.ite_none_left_eq_some] at h
  obtain ⟨hguard, hrate⟩ := h
  obtain rfl := Option.some.inj hrate
  simp only [Bool.or_eq_true, decide_eq_true_eq, not_or] at hguard
  obtain ⟨⟨-, hbytes⟩, hseconds⟩ := hguard
  have hleast : 0 < minRateBytes := by
    decide
  have height : Within 8.0 3 4 := by
    exact @Within.of_unpack 8.0 (2 ^ 52) (-49) (by decide) (by rfl)
      (by decide) (by decide) (by decide) (by decide)
  have hmillion : Within 1000000.0 19 20 := by
    exact @Within.of_unpack 1000000.0 8589934592000000 (-33) (by decide)
      (by rfl) (by decide) (by decide) (by decide) (by decide)
  have hbits := (Within.ofNat (hleast.trans_le (not_lt.mp hbytes))
    phases.isU64).mul height (by norm_num) (by norm_num)
  have hrate := hbits.div (Seconds.within hseconds) (by norm_num) (by norm_num)
  exact hrate.div hmillion (by norm_num) (by norm_num)

theorem download_eq_nil_iff {wanted : ℕ} {attempts : List Attempt} :
    download wanted attempts = [] ↔
      ∀ attempt ∈ attempts, attempt.rate wanted = none := by
  rw [download, List.filterMap_eq_nil_iff]

/-- A repetition counts exactly when one of its streams delivers a rate. -/
theorem downloadValue_pos_iff {wanted : ℕ} {attempts : List Attempt}
    (hfew : attempts.length ≤ 900) :
    0.0 < downloadValue wanted attempts ↔
      ∃ attempt ∈ attempts, (attempt.rate wanted).isSome = true := by
  rw [downloadValue]
  by_cases hnil : download wanted attempts = []
  · have hnone := download_eq_nil_iff.mp hnil
    have hzero : ¬ (0.0 : Float) < 0.0 := by
      decide
    simp only [hnil, List.isEmpty_nil, if_true]
    refine iff_of_false hzero ?_
    rintro ⟨attempt, hmem, hsome⟩
    rw [hnone attempt hmem] at hsome
    exact Bool.false_ne_true hsome
  · have hwithin : ∀ rate ∈ download wanted attempts, Within rate (-82) 57 := by
      intro rate hmem
      obtain ⟨attempt, -, hrate⟩ := List.mem_filterMap.mp hmem
      obtain ⟨-, phases, -, -, hmbit⟩ := Attempt.exists_of_rate hrate
      exact Phases.within_of_mbitS hmbit
    have hlength : (download wanted attempts).length ≤ attempts.length :=
      List.length_filterMap_le _ _
    have hsum := F64.within_sum hnil hwithin (by norm_num) (by omega)
    have hempty : ¬ (download wanted attempts).isEmpty = true :=
      fun h => hnil (List.isEmpty_iff.mp h)
    rw [if_neg hempty]
    refine iff_of_true (F64.zero_lt_of_within hsum) ?_
    rw [download_eq_nil_iff] at hnil
    push Not at hnil
    obtain ⟨attempt, hmem, hrate⟩ := hnil
    exact ⟨attempt, hmem, Option.isSome_iff_ne_none.mpr hrate⟩

/-- The value of a repetition is a whole sum exactly when all streams deliver a
rate, provided that one of them does. -/
theorem isWholeSum_iff {streams wanted : ℕ} {attempts : Fin streams → Attempt}
    (hpos : 0.0 < downloadValue wanted (List.ofFn attempts))
    (hfew : streams ≤ 900) :
    IsWholeSum wanted attempts (downloadValue wanted (List.ofFn attempts)) ↔
      ∀ i, ((attempts i).rate wanted).isSome = true := by
  constructor
  · rintro ⟨rates, -, hwhole⟩ i
    obtain ⟨-, phases, hphases, -, hrate⟩ := hwhole i
    rw [Attempt.rate, hphases, Option.bind_some, hrate]
    rfl
  · intro hall
    have hrates : ∀ i, ∃ rate, (attempts i).rate wanted = some rate :=
      fun i => Option.isSome_iff_exists.mp (hall i)
    choose rates hrates using hrates
    have hdownload : download wanted (List.ofFn attempts) =
        List.ofFn rates := by
      rw [download, List.ofFn_eq_map, List.filterMap_map, List.ofFn_eq_map,
        ← List.filterMap_eq_map]
      exact congrFun (congrArg _ (funext hrates)) _
    have hne : download wanted (List.ofFn attempts) ≠ [] := by
      have hlength : (List.ofFn attempts).length ≤ 900 := by
        rwa [List.length_ofFn]
      obtain ⟨attempt, hmem, hsome⟩ :=
        (downloadValue_pos_iff hlength).mp hpos
      intro hnil
      rw [download_eq_nil_iff.mp hnil attempt hmem] at hsome
      exact Bool.false_ne_true hsome
    refine ⟨rates, ?_, fun i => Attempt.exists_of_rate (hrates i)⟩
    rw [downloadValue, hdownload, if_neg]
    rw [hdownload] at hne
    exact fun h => hne (List.isEmpty_iff.mp h)

theorem Shape.streams_le (shape : Shape) : shape.streams ≤ 900 := by
  cases shape <;> decide

/-! ## The usable samples -/

namespace ShapeRun

variable {shape : Shape}

/-- In each measured repetition all streams deliver a rate, or none does. -/
def AllOrNone (params : ModuleParams) (run : ShapeRun shape) : Prop :=
  ∀ rep, params.warmupReps ≤ rep → rep < params.reps →
    (∃ i, ((run.attempts rep i).rate (downloadBytes params)).isSome = true) →
      ∀ i, ((run.attempts rep i).rate (downloadBytes params)).isSome = true

/-- The usable samples are the values of some of the repetitions. -/
theorem usable_eq {params : ModuleParams} {run : ShapeRun shape}
    {outcome : RepOutcome Float} (h : run.outcome params = .ok outcome) :
    usable outcome = (run.usableReps params).map (run.value params) := by
  have hkeeps := keeps_of_timeReps h
  rw [usable, hkeeps.measured, hkeeps.samples, measuredValues, usableReps,
    List.filter_map, List.filter_map, List.filter_map, List.map_map,
    List.filter_filter]
  refine congrArg (List.map (run.value params)) ?_
  refine List.filter_congr fun rep _ => ?_
  simp only [Function.comp_apply, repSample, Bool.and_comm, ← decide_not,
    not_lt]

/-- Every usable sample is a whole sum exactly when the streams of each
repetition succeed together or fail together. -/
theorem usable_isWholeSum_iff (params : ModuleParams) (run : ShapeRun shape)
    (outcome : RepOutcome Float) (h : run.outcome params = .ok outcome) :
    usable outcome = (run.usableReps params).map (run.value params) ∧
      ((∀ rep ∈ run.usableReps params,
        IsWholeSum (downloadBytes params) (run.attempts rep)
          (run.value params rep)) ↔ run.AllOrNone params) := by
  refine ⟨usable_eq h, ?_⟩
  have hlength : ∀ rep, (List.ofFn (run.attempts rep)).length ≤ 900 := by
    intro rep
    rw [List.length_ofFn]
    exact shape.streams_le
  have hmem : ∀ rep, rep ∈ run.usableReps params ↔
      params.warmupReps ≤ rep ∧ rep < params.reps ∧
        0.0 < run.value params rep := by
    intro rep
    rw [usableReps, List.mem_filter, List.mem_range, Bool.and_eq_true,
      decide_eq_true_iff, decide_eq_true_iff]
    tauto
  constructor
  · intro hwhole rep hwarmup hrep hsome
    obtain ⟨i, hi⟩ := hsome
    have hpos : 0.0 < run.value params rep :=
      (downloadValue_pos_iff (hlength rep)).mpr
        ⟨_, List.mem_ofFn.mpr ⟨i, rfl⟩, hi⟩
    exact (isWholeSum_iff hpos shape.streams_le).mp
      (hwhole rep ((hmem rep).mpr ⟨hwarmup, hrep, hpos⟩))
  · intro hall rep husable
    obtain ⟨hwarmup, hrep, hpos⟩ := (hmem rep).mp husable
    obtain ⟨attempt, hattempt, hsome⟩ :=
      (downloadValue_pos_iff (hlength rep)).mp hpos
    obtain ⟨i, rfl⟩ := List.mem_ofFn.mp hattempt
    exact (isWholeSum_iff hpos shape.streams_le).mpr
      (hall rep hwarmup hrep ⟨i, hsome⟩)

/-! ### A stream that panics -/

/-- A budget of which nothing is spent. -/
def freshBudget : Budget := ⟨0, transferCeilingBytes⟩

/-- The steps that read some bytes. -/
def readSteps (bytes : List UInt8) : List (Budget × Connection.Event) :=
  [(freshBudget, .load), (freshBudget, .exchange false),
    (freshBudget, .read (.ok bytes)), (freshBudget, .refund)]

theorem follow_append (downloadBytes : Option ℕ) (start : Measuring)
    (steps more : List (Budget × Connection.Event)) :
    Connection.follow downloadBytes start (steps ++ more) =
      (Connection.follow downloadBytes start steps).bind fun next =>
        Connection.follow downloadBytes next more := by
  rw [Connection.follow, List.foldlM_append]
  rfl

theorem follow_readSteps {downloadBytes : Option ℕ} {bytes : List UInt8}
    (site : ReadSite) (h : bytes.length ≤ readChunk) :
    Connection.follow downloadBytes (.reserving site none) (readSteps bytes) =
      some (Connection.afterRead downloadBytes (.ok bytes) site) := by
  have hgranted : freshBudget.granted freshBudget.spent readChunk =
      readChunk := by
    decide
  have hpos : readChunk ≠ 0 := by
    decide
  simp only [Connection.follow, readSteps, List.foldlM_cons, List.foldlM_nil,
    Connection.advance, hgranted, hpos, h, if_true, if_false, and_self,
    Option.map_some, Option.bind_eq_bind, Option.bind_some, Option.pure_def]

/-- A chunk of the body. -/
def chunk : List UInt8 :=
  List.replicate readChunk 0

theorem length_chunk : chunk.length = readChunk :=
  List.length_replicate

/-- A loop that reads a chunk at a time. -/
theorem follow_chunks {wanted : ℕ} (chunks : ℕ)
    (h : chunks * readChunk ≤ wanted) :
    Connection.follow (some wanted) (.looping 0)
        (List.replicate chunks
          ((freshBudget, .goOn) :: readSteps chunk)).flatten =
      some (.looping (chunks * readChunk)) := by
  induction chunks with
  | zero => rw [Nat.zero_mul]; rfl
  | succ chunks ih =>
      have hpos : 0 < readChunk := by
        decide
      have hless : ¬ wanted ≤ chunks * readChunk := by
        rw [Nat.succ_mul] at h
        omega
      have hgoOn : Connection.advance freshBudget
          ⟨some wanted, .looping (chunks * readChunk)⟩ .goOn =
            some (freshBudget, 0,
              .reserving (.body (chunks * readChunk)) none) := by
        simp only [Connection.advance, Option.any_some,
          decide_eq_false hless, if_neg Bool.false_ne_true]
      have hbody : Connection.afterRead (some wanted) (.ok chunk)
          (.body (chunks * readChunk)) =
            .looping ((chunks + 1) * readChunk) := by
        have hne : chunk ≠ [] := by
          rw [← List.length_pos_iff, length_chunk]
          exact hpos
        rw [Connection.afterRead, Connection.afterBody, length_chunk,
          Nat.succ_mul]
        exact hne
      rw [Nat.succ_mul] at h
      rw [List.replicate_succ', List.flatten_append, follow_append,
        ih (by omega), Option.bind_some, List.flatten_singleton]
      rw [Connection.follow_cons, hgoOn, Option.bind_some,
        follow_readSteps _ length_chunk.le, hbody]

def oneSecond : Seconds := ⟨1.0, by decide +kernel⟩

/-- An attempt that reads the least body with a rate, until the response ends.
-/
def wholeAttempt : Attempt where
  steps := ((freshBudget, .opened false) :: readSteps okHead) ++
    ((List.replicate 8 ((freshBudget, .goOn) :: readSteps chunk)).flatten ++
      [(freshBudget, .goOn), (freshBudget, .load),
        (freshBudget, .exchange false), (freshBudget, .read .unexpectedEof),
        (freshBudget, .refund)])
  bodySeconds := oneSecond

theorem isSome_rate_wholeAttempt {wanted : ℕ} (h : minRateBytes < wanted) :
    (wholeAttempt.rate wanted).isSome = true := by
  have height : 8 * readChunk = minRateBytes := by
    decide
  have hhead : Connection.follow (some wanted) .opening
      ((freshBudget, .opened false) :: readSteps okHead) =
        some (.looping 0) := by
    rw [Connection.follow_cons]
    change Connection.follow (some wanted) (.reserving .head none)
      (readSteps okHead) = _
    rw [follow_readSteps _ (by decide), Stream.afterRead_okHead]
  have hend : Connection.follow (some wanted) (.looping (8 * readChunk))
      [(freshBudget, .goOn), (freshBudget, .load),
        (freshBudget, .exchange false), (freshBudget, .read .unexpectedEof),
        (freshBudget, .refund)] =
      some (.finished (.ok (8 * readChunk, false))) := by
    have hless : ¬ wanted ≤ 8 * readChunk := by
      omega
    have hgranted : freshBudget.granted freshBudget.spent readChunk =
        readChunk := by
      decide
    have hpos : readChunk ≠ 0 := by
      decide
    simp only [Connection.follow_cons, Connection.advance, Option.any_some,
      decide_eq_false hless, if_neg Bool.false_ne_true, Option.bind_some,
      hgranted, if_neg hpos, and_self, if_true]
    rfl
  have hmeasured : wholeAttempt.measured wanted =
      some ⟨8 * readChunk % 2 ^ 64, oneSecond, false,
        Nat.mod_lt _ (Nat.two_pow_pos 64)⟩ := by
    rw [Attempt.measured, wholeAttempt, follow_append, hhead, Option.bind_some,
      follow_append, follow_chunks _ (by omega), Option.bind_some, hend]
  have hlong : ¬ oneSecond.value < minRateSeconds := by
    decide
  have hlarge : ¬ 8 * readChunk % 2 ^ 64 < minRateBytes := by
    decide
  rw [Attempt.rate, hmeasured, Option.bind_some, Phases.mbitS,
    decide_eq_false hlong, decide_eq_false hlarge]
  rfl

/-- Three of four streams deliver a rate, and the last one panics. -/
def partialRun : ShapeRun .multi where
  attempts _ i := if i.val = 3 then ⟨[], oneSecond⟩ else wholeAttempt
  elapsedMs _ := 1000.0
  isCancelled _ := false

/-- A repetition with a stream missing counts as well. -/
theorem not_isWholeSum_partialRun :
    ∃ outcome, partialRun.outcome ⟨0, 1⟩ = .ok outcome ∧
      usable outcome = [partialRun.value ⟨0, 1⟩ 0] ∧
        ¬ IsWholeSum (downloadBytes ⟨0, 1⟩) (partialRun.attempts 0)
          (partialRun.value ⟨0, 1⟩ 0) := by
  obtain ⟨outcome, houtcome⟩ : ∃ outcome,
      partialRun.outcome ⟨0, 1⟩ = .ok outcome :=
    exists_timeReps fun _ _ => rfl
  have hrate : (wholeAttempt.rate (downloadBytes ⟨0, 1⟩)).isSome = true :=
    isSome_rate_wholeAttempt (by decide)
  have hpos : 0.0 < partialRun.value ⟨0, 1⟩ 0 := by
    refine (downloadValue_pos_iff ?_).mpr ⟨wholeAttempt, ?_, hrate⟩
    · rw [List.length_ofFn]
      exact Shape.multi.streams_le
    · exact List.mem_ofFn.mpr ⟨⟨0, by decide⟩, rfl⟩
  refine ⟨outcome, houtcome, ?_, ?_⟩
  · rw [usable_eq houtcome, usableReps]
    change List.map _ (List.filter _ [0]) = _
    rw [List.filter_cons_of_pos]
    · rfl
    · rw [decide_eq_true hpos]
      rfl
  · intro hwhole
    have hall := (isWholeSum_iff hpos Shape.multi.streams_le).mp hwhole
      ⟨3, by decide⟩
    exact Bool.false_ne_true hall

/-- Every stream delivers a rate. -/
def wholeRun : ShapeRun .multi where
  attempts _ _ := wholeAttempt
  elapsedMs _ := 1000.0
  isCancelled _ := false

theorem usable_isWholeSum_wholeRun :
    ∃ outcome, wholeRun.outcome ⟨1, 5⟩ = .ok outcome ∧
      usable outcome =
        (wholeRun.usableReps ⟨1, 5⟩).map (wholeRun.value ⟨1, 5⟩) ∧
      ∀ rep ∈ wholeRun.usableReps ⟨1, 5⟩,
        IsWholeSum (downloadBytes ⟨1, 5⟩) (wholeRun.attempts rep)
          (wholeRun.value ⟨1, 5⟩ rep) := by
  obtain ⟨outcome, houtcome⟩ : ∃ outcome,
      wholeRun.outcome ⟨1, 5⟩ = .ok outcome :=
    exists_timeReps fun _ _ => rfl
  obtain ⟨husable, hiff⟩ := usable_isWholeSum_iff ⟨1, 5⟩ wholeRun outcome
    houtcome
  exact ⟨outcome, houtcome, husable,
    hiff.mpr fun rep _ _ ⟨_, hi⟩ _ => hi⟩

end ShapeRun

end NetworkTransfer

end Darcbench
