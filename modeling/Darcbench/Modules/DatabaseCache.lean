import Darcbench.Modules.DatabaseOltp

/-!
# What the tools of the cache report

The module for the cache reads rates from the rows that `redis-benchmark`
prints, and the latency of an idle server from one of the two formats of
`redis-cli`.
-/

namespace Darcbench

namespace DatabaseCache

variable {F : Type} [F64 F]

/-! ## Rates -/

def eqIgnoreAsciiCase (text other : List Char) : Bool :=
  F64.lowercase text = F64.lowercase other

/-- The result of one command. -/
structure CommandResult (F : Type) where
  name : List Char
  opsPerSecond : F

/-- A text without the quotes at its ends. -/
def trimQuotes (text : List Char) : List Char :=
  ((text.dropWhile (· = '"')).reverse.dropWhile (· = '"')).reverse

/-- The fields of a row. -/
def csvFields (line : List Char) : List (List Char) :=
  (line.splitOn ',').map fun field => trimQuotes (Words.trim field)

/-- The result that stands on a line, if the line is a row with a rate. -/
def commandResult? (line : List Char) : Option (CommandResult F) :=
  match csvFields (Words.trim line) with
  | name :: value :: _ =>
      if eqIgnoreAsciiCase name "test".toList then none
      else
        match (F64.parse value : Option F) with
        | none => none
        | some rate =>
            if F64.isFinite rate = true ∧ 0.0 < rate then
              some { name := name, opsPerSecond := rate }
            else none
  | _ => none

def parseCsv (output : List Char) : List (CommandResult F) :=
  (Words.lines output).filterMap commandResult?

/-! ## The latency of an idle server -/

structure LatencyProbe (F : Type) where
  minMs : F
  maxMs : F
  meanMs : F
  samples : ℕ

def LatencyProbe.default : LatencyProbe F where
  minMs := 0.0
  maxMs := 0.0
  meanMs := 0.0
  samples := 0

def minLabel : List Char := "min:".toList

def maxLabel : List Char := "max:".toList

def averageLabel : List Char := "avg:".toList

/-- What stands behind the first bracket. -/
def afterBracket (rest : List Char) : Option (List Char) :=
  (Words.splitOnce '(' rest).map Prod.snd

variable [F64.Round F]

def LatencyProbe.readPart (probe : LatencyProbe F) (part : List Char) :
    LatencyProbe F :=
  let part := Words.trim part
  if let some rest := part.dropPrefix? minLabel then
    { probe with minMs := (leadingNumber rest).getD 0.0 }
  else if let some rest := part.dropPrefix? maxLabel then
    { probe with maxMs := (leadingNumber rest).getD 0.0 }
  else if let some rest := part.dropPrefix? averageLabel then
    { probe with
      meanMs := (leadingNumber rest).getD 0.0
      samples :=
        match afterBracket rest with
        | some count => F64.Round.toU64 ((leadingNumber count).getD 0.0 : F)
        | none => probe.samples }
  else probe

/-- The last line with an average. -/
def labelledLine (output : List Char) : Option (List Char) :=
  ((Words.lines output).map Words.trim).reverse.find? fun line =>
    line.tails.any (averageLabel.isPrefixOf ·)

/-- The numbers of a line that holds nothing else. -/
def numbers? (line : List Char) : Option (List F) :=
  (Words.splitWhitespace line).mapM F64.parse

/-- The numbers of the last line that is four of them. -/
def pipedLine (output : List Char) : Option (List F) :=
  ((((Words.lines output).map Words.trim).filter
    (!·.isEmpty)).filterMap numbers?).reverse.find? (·.length = 4)

def parseLatency (output : List Char) : LatencyProbe F :=
  match labelledLine output with
  | some line => (line.splitOn ',').foldl LatencyProbe.readPart .default
  | none =>
      match (pipedLine output : Option (List F)) with
      | some [min, max, mean, samples] =>
          { minMs := min
            maxMs := max
            meanMs := mean
            samples := if 0.0 ≤ samples then F64.Round.toU64 samples else 0 }
      | _ => .default

/-- Whether the probe ran. -/
def LatencyProbe.isCredible (probe : LatencyProbe F) : Bool :=
  0 < probe.samples && F64.isFinite probe.meanMs &&
    decide (probe.meanMs ≤ probe.maxMs)

/-! ## The module -/

structure Shape where
  command : String
  key : String
  label : String
  pipeline : Option String
  deriving DecidableEq

def shapes : List Shape :=
  [⟨"get", "get.throughput", "GET", none⟩,
   ⟨"set", "set.throughput", "SET", none⟩,
   ⟨"incr", "incr.throughput", "INCR", none⟩,
   ⟨"get", "pipelined.throughput", "GET, pipelined 16 deep", some "16"⟩]

def Shape.args (shape : Shape) : List String :=
  ["redis-benchmark", "-h", "127.0.0.1", "-c", "50", "-n", "100000", "-d",
    "64", "-r", "10000", "-t", shape.command, "--csv"] ++
  match shape.pipeline with
  | some depth => ["-P", depth]
  | none => []

def latencyArgs : List String :=
  ["redis-cli", "-h", "127.0.0.1", "--latency", "-i", "5"]

/-- Whether a result is of the command that was asked for. -/
def Shape.isNamed (shape : Shape) (result : CommandResult F) : Bool :=
  eqIgnoreAsciiCase result.name shape.command.toList

def Shape.withheld (shape : Shape) : String :=
  "the " ++ shape.label ++ " phase reported no operations per second, so it " ++
    "is withheld rather than published as a zero - which would read as a " ++
    "server that could not perform the command at all rather than a phase " ++
    "that did not run."

def Shape.measured (shape : Shape) (results : List (CommandResult F)) :
    Measured F :=
  match (results.find? shape.isNamed).or results.head? with
  | some result =>
      { metrics :=
          [.single shape.key (shape.label ++ ", throughput") "ops/s"
            .higherIsBetter result.opsPerSecond]
        warnings := [] }
  | none =>
      { metrics := []
        warnings :=
          [{ code := .validationFailed
             message := shape.withheld
             metricKey := some shape.key }] }

def meanKey : String := "roundtrip.unloaded_mean"

def maxKey : String := "roundtrip.unloaded_max"

def LatencyProbe.measured (probe : LatencyProbe F) : Measured F :=
  if probe.isCredible then
    { metrics :=
        [.single meanKey "Round-trip on an idle server, mean" "ms"
           .lowerIsBetter probe.meanMs,
         .single maxKey "Round-trip on an idle server, worst observed" "ms"
           .lowerIsBetter probe.maxMs]
      warnings := [] }
  else
    { metrics := []
      warnings :=
        [{ code := .validationFailed
           message :=
             "the unloaded round-trip probe collected no samples, so it is " ++
               "withheld. A mean of zero from a parse that found nothing " ++
               "would read as an extraordinarily fast machine."
           metricKey := some meanKey }] }

section Measure

variable (exec : Answers)

def runShapes : Except ModuleError (Measured F) :=
  runEach exec Shape.args (fun shape text => shape.measured (parseCsv text))
    shapes

/-- A probe that could not be run found nothing. -/
def probe : LatencyProbe F :=
  match exec latencyArgs with
  | .ok output => parseLatency output.text
  | .error _ => .default

def measure : Except ModuleError (Measured F) := do
  let throughput ← runShapes exec
  return throughput.append (probe exec).measured

end Measure

end DatabaseCache

end Darcbench
