import Darcbench.Modules.NetworkTransfer

/-!
# The plan of a network measurement

A run probes the endpoints and then downloads in repetitions, first on one
stream and then on several at once.  The size of a download is derived from the
ceiling, so that all downloads together fit it.
-/

namespace Darcbench

namespace NetworkTransfer

/-! ## Constants -/

/-- Hard ceiling on the bytes of a run. -/
def transferCeilingBytes : ℕ := 512 * 2 ^ 20

def parallelStreams : ℕ := 4

def maxDownloadBytes : ℕ := 8 * 2 ^ 20

def minDownloadBytes : ℕ := 2 ^ 20

/-- Fewest successful samples before a metric is reported. -/
def minSamples : ℕ := 3

/-- The throughput endpoint and those for latency. -/
def endpointCount : ℕ := 1 + 3

structure ModuleParams where
  warmupReps : ℕ
  measuredReps : ℕ

def ModuleParams.reps (params : ModuleParams) : ℕ :=
  params.warmupReps + params.measuredReps

/-- Bytes requested in a repetition, for each stream. -/
def downloadBytes (params : ModuleParams) : ℕ :=
  let reps := max params.reps 1
  -- Both shapes run in every repetition: one stream, then several.
  let transfers := reps * (1 + parallelStreams)
  max minDownloadBytes
    (min (transferCeilingBytes / max transfers 1) maxDownloadBytes)

/-! ## The tasks of a run -/

inductive Task
  /-- Looks whether the run has been cancelled. -/
  | cancellation
  /-- Measures on some connections at once, and waits for all of them. -/
  | measure (downloadBytes : Option ℕ) (streams : ℕ)
  /-- Ends the run unless the probe before it has succeeded. -/
  | reachable
  /-- The sample of a latency repetition. -/
  | sample (measured : Bool)
  /-- Ends the run unless there are enough samples. -/
  | judge
  /-- Downloads in repetitions, unless nothing is left to spend. -/
  | shape (streams : ℕ)
  deriving DecidableEq

/-- A repetition of the latency shapes. -/
def latencyRep (params : ModuleParams) (rep : ℕ) : List Task :=
  .cancellation :: List.replicate endpointCount (.measure none 1) ++
    [.sample (params.warmupReps ≤ rep)]

/-- The repetitions of a download shape. -/
def downloadReps (params : ModuleParams) (streams : ℕ) : List Task :=
  (List.replicate params.reps
    [.cancellation, .measure (some (downloadBytes params)) streams]).flatten

/-- The latency shapes, before anything is downloaded. -/
def latencyTasks (params : ModuleParams) : List Task :=
  [.measure none 1, .reachable] ++
    (List.range params.reps).flatMap (latencyRep params)

def plan (params : ModuleParams) : List Task :=
  latencyTasks params ++
    [.judge, .cancellation, .shape 1, .cancellation, .shape parallelStreams]

/-! ## Runs -/

/-- A connection and what has not been read of the response to it. -/
structure Stream where
  conn : Connection
  unread : List UInt8

/-- The endpoint answers: what is read is the next piece of the response, and
an end is found only where it ends. -/
def Stream.answered (stream : Stream) : Connection.Event → Bool
  | .opened failed => !failed
  | .read (.ok bytes) =>
      bytes.isPrefixOf stream.unread &&
        (!bytes.isEmpty || stream.unread.isEmpty)
  | .read .unexpectedEof => stream.unread.isEmpty
  | .read .error => false
  | _ => true

def Stream.advance (budget : Budget) (stream : Stream)
    (event : Connection.Event) : Option (Budget × Stream) :=
  if stream.answered event then
    (stream.conn.advance budget event).map fun (budget, read, next) =>
      (budget, ⟨{ stream.conn with next }, stream.unread.drop read⟩)
  else none

/-- The connection has come to an end. -/
def Stream.isFinished (stream : Stream) : Bool :=
  match stream.conn.next with
  | .finished _ => true
  | _ => false

/-- The connection has come to its end without an error. -/
def Stream.succeeded (stream : Stream) : Bool :=
  match stream.conn.next with
  | .finished (.ok _) => true
  | _ => false

/-- An endpoint answers a probe with at most a chunk, and a download with a
head of at most a chunk followed by the body. -/
def Answers : Option ℕ → List UInt8 → Prop
  | none, response => response.length ≤ readChunk
  | some wanted, response =>
      wanted ≤ response.length ∧ response.length ≤ readChunk + wanted

instance (downloadBytes : Option ℕ) (response : List UInt8) :
    Decidable (Answers downloadBytes response) := by
  cases downloadBytes with
  | none => exact inferInstanceAs (Decidable (_ ≤ _))
  | some wanted => exact inferInstanceAs (Decidable (_ ∧ _))

structure Run where
  budget : Budget
  /-- All connections so far. -/
  streams : List Stream
  todo : List Task
  /-- The positive samples of the measured latency repetitions. -/
  connected : ℕ
  curtailed : Bool
  ended : Bool

namespace Run

def start (params : ModuleParams) : Run where
  budget := ⟨0, transferCeilingBytes⟩
  streams := []
  todo := plan params
  connected := 0
  curtailed := false
  ended := false

/-- What the endpoints, the clock and the operator do. -/
inductive Action
  | step (stream : ℕ) (event : Connection.Event)
  /-- Goes on with the next task once all connections have come to an end. -/
  | proceed (cancelled : Bool) (responses : List (List UInt8))
      (positive : Bool)

/-- Does the next task. -/
def perform (params : ModuleParams) (s : Run) (cancelled : Bool)
    (responses : List (List UInt8)) (positive : Bool) : Option Run :=
  match s.todo with
  | [] => none
  | .cancellation :: rest =>
      some { s with todo := rest, ended := cancelled }
  | .measure downloadBytes streams :: rest =>
      if responses.length = streams ∧
          ∀ response ∈ responses, Answers downloadBytes response then
        some { s with
          streams := s.streams ++ responses.map fun response =>
            ⟨⟨downloadBytes, .opening⟩, response⟩
          todo := rest }
      else none
  | .reachable :: rest =>
      some { s with
        todo := rest
        ended := !s.streams.getLast?.any Stream.succeeded }
  | .sample measured :: rest =>
      -- A repetition without a connection has no positive median.
      let probed := s.streams.drop (s.streams.length - endpointCount)
      let counts := measured && positive && probed.any Stream.succeeded
      some { s with
        todo := rest
        connected := if counts then s.connected + 1 else s.connected }
  | .judge :: rest =>
      some { s with todo := rest, ended := decide (s.connected < minSamples) }
  | .shape streams :: rest =>
      if s.budget.ceiling ≤ s.budget.spent then
        some { s with todo := rest, curtailed := true }
      else some { s with todo := downloadReps params streams ++ rest }

def step (params : ModuleParams) (s : Run) : Action → Option Run
  | .step i event => do
      let stream ← s.streams[i]?
      let (budget, stream) ← stream.advance s.budget event
      return { s with budget, streams := s.streams.set i stream }
  | .proceed cancelled responses positive =>
      if s.ended || !s.streams.all Stream.isFinished then none
      else s.perform params cancelled responses positive

/-- The runs with the given parameters. -/
def system (params : ModuleParams) : TransitionSystem Run Action where
  initial s := s = start params
  step := step params

/-- No download has been cut short and no shape has been skipped. -/
structure FitsCeiling (s : Run) : Prop where
  whole : ∀ stream ∈ s.streams, stream.conn.downloadBytes.isSome = true →
    ∀ total, stream.conn.next ≠ .finished (.ok (total, true))
  complete : s.curtailed = false

end Run

end NetworkTransfer

end Darcbench
