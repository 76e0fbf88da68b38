import Darcbench.Agent.ModuleLoop
import Darcbench.Modules.Container
import Darcbench.Protocol.Display
import Darcbench.Protocol.ParseFloat
import Darcbench.Protocol.Rounding

/-!
# What pgbench reports

The module for transactions runs `pgbench` in four phases, reads its summary
from what it prints, and publishes rates and latencies.
-/

namespace Darcbench

/-- What a program answers, or the text of the error. -/
abbrev Answers : Type := List String → Except String Container.Output

/-- All that a program prints, where it is read. -/
def Container.Output.text (output : Container.Output) : List Char :=
  (output.stdout ++ "\n" ++ output.stderr).toList

section

variable {F : Type} [F64 F]

/-- The leading number of a text. -/
def leadingNumber (text : List Char) : Option F :=
  F64.parse ((text.dropWhile Words.isWhiteSpace).takeWhile fun c =>
    c.isDigit || c = '.' || c = '-' || c = '+')

/-- The summary of a figure with exactly one observation. -/
def Summary.single (value : F) : Summary F where
  n := 1
  min := value
  max := value
  mean := value
  median := value
  stddev := 0.0
  cv := none
  ci95 := none
  mad := none

/-- A metric of one figure. -/
def Metric.single (key label unit : String) (direction : Direction)
    (value : F) : Metric F where
  key := key
  label := label
  unit := unit
  direction := direction
  value := value
  summary := .single value
  samples := []
  outliers := []
  measuresDispersion := false
  tailQuantile := false

end

/-- What a module publishes, less its context. -/
structure Measured (F : Type) where
  metrics : List (Metric F)
  warnings : List Warning

def Measured.append {F : Type} (first second : Measured F) : Measured F where
  metrics := first.metrics ++ second.metrics
  warnings := first.warnings ++ second.warnings

/-- Runs programs one after the other, as long as they answer, and measures
what each of them prints. -/
def runEach {F P : Type} (exec : Answers) (args : P → List String)
    (measured : P → List Char → Measured F) :
    List P → Except ModuleError (Measured F)
  | [] => .ok ⟨[], []⟩
  | phase :: rest =>
      match exec (args phase) with
      | .error error => .error (.precondition error)
      | .ok output => do
          let others ← runEach exec args measured rest
          return (measured phase output.text).append others

namespace DatabaseOltp

variable {F : Type} [F64 F]

/-! ## The summary -/

/-- What one run reported. -/
structure BenchResult (F : Type) where
  tps : F
  latencyMeanMs : F
  latencyStddevMs : Option F
  /-- Absent when the run was not rate-limited. -/
  scheduleLagMs : Option F
  transactions : ℕ
  failed : ℕ
  abortedClients : ℕ

def BenchResult.default : BenchResult F where
  tps := 0.0
  latencyMeanMs := 0.0
  latencyStddevMs := none
  scheduleLagMs := none
  transactions := 0
  failed := 0
  abortedClients := 0

def tpsLabel : List Char := "tps = ".toList

def averageLabel : List Char := "latency average = ".toList

def stddevLabel : List Char := "latency stddev = ".toList

def lagLabel : List Char := "rate limit schedule lag: avg ".toList

def transactionsLabel : List Char :=
  "number of transactions actually processed: ".toList

def failedLabel : List Char := "number of failed transactions: ".toList

def abortedText : List Char := "aborted in command".toList

/-- Equality with zero. -/
def isZero (a : F) : Bool :=
  decide (a ≤ 0.0) && decide (0.0 ≤ a)

/-- The number of transactions, of which a run with a fixed count has two. -/
def transactionCount (rest : List Char) : ℕ :=
  (Words.parseU64 (Words.trim (rest.takeWhile (· ≠ '/')))).getD 0

variable [F64.Round F]

def BenchResult.readLine (result : BenchResult F) (line : List Char) :
    BenchResult F :=
  let line := Words.trim line
  if let some rest := line.dropPrefix? tpsLabel then
    -- Older versions print two rates, of which the first counts.
    if isZero result.tps then
      { result with tps := (leadingNumber rest).getD 0.0 }
    else result
  else if let some rest := line.dropPrefix? averageLabel then
    { result with latencyMeanMs := (leadingNumber rest).getD 0.0 }
  else if let some rest := line.dropPrefix? stddevLabel then
    { result with latencyStddevMs := leadingNumber rest }
  else if let some rest := line.dropPrefix? lagLabel then
    { result with scheduleLagMs := leadingNumber rest }
  else if let some rest := line.dropPrefix? transactionsLabel then
    { result with transactions := transactionCount rest }
  else if let some rest := line.dropPrefix? failedLabel then
    { result with
      failed := F64.Round.toU64 ((leadingNumber rest).getD 0.0 : F) }
  else if line.tails.any (abortedText.isPrefixOf ·) then
    { result with abortedClients := result.abortedClients + 1 }
  else result

def parsePgbench (output : List Char) : BenchResult F :=
  (Words.lines output).foldl BenchResult.readLine .default

/-- Whether the result describes work that happened. -/
def BenchResult.isCredible (result : BenchResult F) : Bool :=
  0 < result.transactions && decide (0.0 < result.tps) &&
    F64.isFinite result.tps && result.abortedClients = 0

/-- The 95th percentile of a normal distribution. -/
def BenchResult.estimatedP95Ms (result : BenchResult F) : Option F :=
  result.latencyStddevMs.map fun stddev =>
    result.latencyMeanMs + 1.645 * stddev

/-! ## The phases -/

def throughputClients : String := "8"

def latencyClients : String := "4"

def latencyRate : String := "200"

def phaseSeconds : String := "20"

def latencyLagToleranceMs : F := 5.0

def dbUser : String := "darcbench"

def dbName : String := "darcbench"

def buildArgs : List String :=
  ["pgbench", "-i", "-q", "-s", "10", "-U", dbUser, "-h", "127.0.0.1", dbName]

def phaseArgs (selectOnly : Bool) (clients seconds : String)
    (rate : Option String) : List String :=
  ["pgbench", "-U", dbUser, "-h", "127.0.0.1", "-c", clients, "-j", clients,
    "-T", seconds, "-r"] ++
  (if selectOnly then ["-S"] else []) ++
  (match rate with
    | some rate => ["--rate", rate]
    | none => []) ++
  [dbName]

structure ThroughputPhase where
  selectOnly : Bool
  key : String
  label : String

def throughputPhases : List ThroughputPhase :=
  [⟨true, "read.tps", "Select-only transactions"⟩,
   ⟨false, "write.tps", "Read-write transactions"⟩]

structure LatencyPhase where
  selectOnly : Bool
  /-- What the keys of its metrics start with. -/
  stem : String
  label : String

def latencyPhases : List LatencyPhase :=
  [⟨true, "read", "Select-only"⟩, ⟨false, "write", "Read-write"⟩]

def ThroughputPhase.args (phase : ThroughputPhase) : List String :=
  phaseArgs phase.selectOnly throughputClients phaseSeconds none

def LatencyPhase.args (phase : LatencyPhase) : List String :=
  phaseArgs phase.selectOnly latencyClients phaseSeconds (some latencyRate)

def LatencyPhase.meanKey (phase : LatencyPhase) : String :=
  phase.stem ++ ".latency_mean"

def LatencyPhase.p95Key (phase : LatencyPhase) : String :=
  phase.stem ++ ".latency_estimated_p95"

def ThroughputPhase.withheld (phase : ThroughputPhase)
    (result : BenchResult F) : String :=
  if 0 < result.abortedClients then
    "the " ++ phase.label ++ " phase lost " ++
      toString result.abortedClients ++ " of its " ++ throughputClients ++
      " clients part-way through - the server stopped answering them - so " ++
      "its result is withheld. pgbench still reported a rate, computed over " ++
      "the whole requested window including the part with no clients left " ++
      "in it, which is why this is refused rather than published with a caveat"
  else
    "the " ++ phase.label ++ " phase processed no transactions, so it is " ++
      "not a slow machine - it is a phase that did not run, and reporting a " ++
      "zero for it would put a fabricated point in a comparison"

def ThroughputPhase.measured (phase : ThroughputPhase)
    (result : BenchResult F) : Measured F :=
  if !result.isCredible then
    { metrics := []
      warnings :=
        [{ code := .validationFailed
           message := phase.withheld result
           metricKey := some phase.key }] }
  else
    { metrics :=
        [.single phase.key (phase.label ++ ", throughput") "tx/s"
          .higherIsBetter result.tps]
      warnings := [] }

def LatencyPhase.withheld (phase : LatencyPhase) : String :=
  "the " ++ phase.label ++ " latency phase processed no transactions, so no " ++
    "latency is reported for it. It is not a slow machine - it is a phase " ++
    "that did not run, and the most likely reason is that the server was no " ++
    "longer answering by the time it started"

def LatencyPhase.late [F64.Display F] (phase : LatencyPhase) (lag : F) :
    String :=
  "the " ++ phase.label ++ " latency phase fell " ++ F64.Display.fixed 1 lag ++
    " ms behind its schedule on average, past the 5 ms tolerance. " ++
    "Transactions after the backlog began were issued late, so the " ++
    "latencies recorded are not the latencies of the load this phase claims " ++
    "to have offered. pgbench shares the container with the server, so its own CPU " ++
    "is CPU the server did not get."

/-- A phase that could not hold its schedule describes the client. -/
def LatencyPhase.lagWarnings [F64.Display F] (phase : LatencyPhase)
    (result : BenchResult F) : List Warning :=
  match result.scheduleLagMs with
  | some lag =>
      if latencyLagToleranceMs < lag then
        [{ code := .generatorSaturated
           message := phase.late lag
           metricKey := some phase.meanKey }]
      else []
  | none => []

def LatencyPhase.measured [F64.Display F] (phase : LatencyPhase)
    (result : BenchResult F) : Measured F :=
  if !result.isCredible then
    { metrics := []
      warnings :=
        [{ code := .validationFailed
           message := phase.withheld
           metricKey := some phase.meanKey }] }
  else
    { metrics :=
        .single phase.meanKey (phase.label ++ " latency, mean") "ms"
            .lowerIsBetter result.latencyMeanMs ::
          (result.estimatedP95Ms.map fun p95 =>
            .single phase.p95Key
              (phase.label ++ " latency, estimated 95th percentile") "ms"
              .lowerIsBetter p95).toList
      warnings := phase.lagWarnings result }

/-! ## The module -/

section Measure

variable (exec : Answers)

/-- The first line with something on it. -/
def firstLine (text : String) : String :=
  match ((Words.lines text.toList).map Words.trim).find? (!·.isEmpty) with
  | some line => String.ofList line
  | none => "no output"

def build : Except ModuleError Unit :=
  match exec buildArgs with
  | .error error => .error (.precondition error)
  | .ok output =>
      if output.succeeded then .ok ()
      else
        .error (.precondition
          ("the dataset could not be built, so there is nothing to measure: " ++
            firstLine (output.stderr ++ output.stdout)))

def runThroughput : Except ModuleError (Measured F) :=
  runEach exec ThroughputPhase.args
    (fun phase text => phase.measured (parsePgbench text)) throughputPhases

def runLatency [F64.Display F] : Except ModuleError (Measured F) :=
  runEach exec LatencyPhase.args
    (fun phase text => phase.measured (parsePgbench text)) latencyPhases

/-- All phases, over the answers of the programs in the container. -/
def measure [F64.Display F] : Except ModuleError (Measured F) := do
  build exec
  let throughput ← runThroughput exec
  let latency ← runLatency exec
  return throughput.append latency

end Measure

end DatabaseOltp

end Darcbench
