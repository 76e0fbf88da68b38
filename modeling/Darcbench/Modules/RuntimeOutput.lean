import Darcbench.Agent.ModuleLoop
import Darcbench.Modules.Container
import Darcbench.Support.Blanks

/-!
# What an interpreter prints

The modules for PHP and for Node run a script that prints its result on one
line.  The interpreter may print lines of its own beside it.
-/

namespace Darcbench

namespace RuntimeOutput

/-- A reader of JSON texts, with the value or the text of the error.  An empty
text has no value. -/
structure JsonReader (T : Type) where
  fromStr : List Char → Except String T
  empty_error : ∀ value, fromStr [] ≠ .ok value

variable {T : Type} (reader : JsonReader T)

/-- The last line that has a value. -/
def parseLastLine (stdout : List Char) : Option T :=
  (((Words.lines stdout).reverse.map Words.trim).filter
    (!·.isEmpty)).findSome? fun line => (reader.fromStr line).toOption

def trimmed (text : String) : String :=
  String.ofList (Words.trim text.toList)

/-- An exit status as it is printed for debugging. -/
def debugStatus : Option ℤ → String
  | some code => "Some(" ++ toString code ++ ")"
  | none => "None"

def exited (what : String) (output : Container.Output) : String :=
  "`" ++ what ++ "` exited with " ++ debugStatus output.status ++ ": " ++
    trimmed output.stderr

/-- The answer of an interpreter, or why there is none. -/
abbrev Answer := Except String Container.Output

/-- The description of an interpreter, under the name of its language. -/
def describe (language path script : String) (answer : Answer) :
    Except ModuleError T :=
  match answer with
  | .error error =>
      .error (.precondition
        (language ++ " could not be interrogated: " ++ error))
  | .ok output =>
      if !output.succeeded then
        .error (.precondition
          (exited (path ++ " " ++ script ++ " describe") output))
      else
        match parseLastLine reader output.stdout.toList with
        | some description => .ok description
        | none =>
            .error (.precondition
              (language ++ " produced no usable description. Its output was: " ++
                trimmed output.stdout))

namespace PhpRuntime

def describe (path script : String) (answer : Answer) :
    Except ModuleError T :=
  RuntimeOutput.describe reader "PHP" path script answer

/-- One run of a workload: the output as a whole is the result. -/
def measure (arg : String) (answer : Answer) : Except ModuleError T :=
  match answer with
  | .error error => .error (.workload error)
  | .ok output =>
      if !output.succeeded then .error (.workload (exited arg output))
      else
        match reader.fromStr (Words.trim output.stdout.toList) with
        | .ok result => .ok result
        | .error error =>
            .error (.workload
              ("`" ++ arg ++ "` produced no usable result: " ++ error))

end PhpRuntime

namespace NodeRuntime

def describe (path script : String) (answer : Answer) :
    Except ModuleError T :=
  RuntimeOutput.describe reader "Node" path script answer

/-- One run of a workload: the last line with a value is the result. -/
def measureOnce (arg : String) (answer : Answer) : Except ModuleError T :=
  match answer with
  | .error error => .error (.workload error)
  | .ok output =>
      if !output.succeeded then .error (.workload (exited arg output))
      else
        match parseLastLine reader output.stdout.toList with
        | some result => .ok result
        | none =>
            .error (.workload
              ("`" ++ arg ++ "` produced no usable result. Its output was: " ++
                trimmed output.stdout))

end NodeRuntime

/-! ## Chatter -/

/-- An output with one line that has a value. -/
structure Printed (value : T) where
  output : Container.Output
  before : List (List Char)
  result : List Char
  after : List (List Char)
  succeeded : output.succeeded = true
  lines_eq : Words.lines output.stdout.toList = before ++ result :: after
  reads : reader.fromStr (Words.trim result) = .ok value
  silent : ∀ line ∈ before ++ after, ∀ other,
    reader.fromStr (Words.trim line) ≠ .ok other

variable {reader} {value : T}

theorem findSome?_of_silent {lines : List (List Char)}
    (h : ∀ line ∈ lines, ∀ other,
      reader.fromStr (Words.trim line) ≠ .ok other) :
    ((lines.map Words.trim).filter (!·.isEmpty)).findSome?
      (fun line => (reader.fromStr line).toOption) = none := by
  rw [List.findSome?_eq_none_iff]
  intro line hline
  obtain ⟨original, horiginal, rfl⟩ :=
    List.mem_map.mp (List.mem_of_mem_filter hline)
  cases hread : reader.fromStr (Words.trim original) with
  | error error => rfl
  | ok other => exact absurd hread (h original horiginal other)

namespace Printed

/-- The last line with a value is the line with the value. -/
theorem parseLastLine_eq (printed : Printed reader value) :
    parseLastLine reader printed.output.stdout.toList = some value := by
  have hne : Words.trim printed.result ≠ [] := by
    intro hempty
    have hreads := printed.reads
    rw [hempty] at hreads
    exact reader.empty_error value hreads
  have hafter := @findSome?_of_silent T reader printed.after.reverse
    fun line hline => printed.silent line
      (List.mem_append_right _ (List.mem_reverse.mp hline))
  rw [parseLastLine, printed.lines_eq, List.reverse_append,
    List.reverse_cons, List.append_assoc, List.map_append,
    List.filter_append, List.findSome?_append, hafter, Option.none_or,
    List.singleton_append, List.map_cons,
    List.filter_cons_of_pos (by simpa using hne),
    List.findSome?_cons_of_isSome] <;>
    rw [printed.reads] <;> rfl

theorem describe_eq (printed : Printed reader value)
    (language path script : String) :
    describe reader language path script (.ok printed.output) =
      .ok value := by
  rw [describe]
  rw [printed.succeeded, printed.parseLastLine_eq]
  rfl

theorem measureOnce_eq (printed : Printed reader value) (arg : String) :
    NodeRuntime.measureOnce reader arg (.ok printed.output) = .ok value := by
  rw [NodeRuntime.measureOnce]
  rw [printed.succeeded, printed.parseLastLine_eq]
  rfl

/-- What PHP measures is what the output reads as a whole. -/
theorem measure_eq_iff (printed : Printed reader value) (arg : String) :
    PhpRuntime.measure reader arg (.ok printed.output) = .ok value ↔
      reader.fromStr (Words.trim printed.output.stdout.toList) =
        .ok value := by
  rw [PhpRuntime.measure]
  rw [printed.succeeded, Bool.not_true, if_neg Bool.false_ne_true]
  cases reader.fromStr (Words.trim printed.output.stdout.toList) with
  | error error => simp
  | ok result => simp

theorem trim_eq_of_blank (printed : Printed reader value)
    (h : ∀ line ∈ printed.before ++ printed.after, Words.IsBlank line) :
    Words.trim printed.output.stdout.toList = Words.trim printed.result :=
  Words.trim_of_lines printed.lines_eq h

end Printed

/-- What the interpreters yield on an output for the description and one for a
measurement is what stands on the lines with the values. -/
structure YieldsResults {D M : Type} {readDescription : JsonReader D}
    {readMeasurement : JsonReader M} {description : D} {measurement : M}
    (described : Printed readDescription description)
    (measured : Printed readMeasurement measurement) : Prop where
  phpDescription : ∀ path script,
    PhpRuntime.describe readDescription path script (.ok described.output) =
      .ok description
  nodeDescription : ∀ path script,
    NodeRuntime.describe readDescription path script
      (.ok described.output) = .ok description
  phpMeasurement : ∀ arg,
    PhpRuntime.measure readMeasurement arg (.ok measured.output) =
      .ok measurement
  nodeMeasurement : ∀ arg,
    NodeRuntime.measureOnce readMeasurement arg (.ok measured.output) =
      .ok measurement

/-- Chatter does not change the results exactly if it is blank in every
measurement, or makes up one text with the value of its result. -/
theorem yieldsResults_iff {D M : Type} {readDescription : JsonReader D}
    {readMeasurement : JsonReader M} {description : D} {measurement : M}
    (described : Printed readDescription description)
    (measured : Printed readMeasurement measurement) :
    YieldsResults described measured ↔
      (∀ line ∈ measured.before ++ measured.after, Words.IsBlank line) ∨
        readMeasurement.fromStr
          (Words.trim measured.output.stdout.toList) = .ok measurement := by
  constructor
  · intro h
    exact .inr ((measured.measure_eq_iff "").mp (h.phpMeasurement ""))
  · intro h
    have hwhole : readMeasurement.fromStr
        (Words.trim measured.output.stdout.toList) = .ok measurement := by
      rcases h with hblank | hwhole
      · rw [measured.trim_eq_of_blank hblank]
        exact measured.reads
      · exact hwhole
    constructor
    · exact fun path script => described.describe_eq "PHP" path script
    · exact fun path script => described.describe_eq "Node" path script
    · exact fun arg => (measured.measure_eq_iff arg).mpr hwhole
    · exact measured.measureOnce_eq

/-! ## A notice -/

/-- A reader of one digit. -/
def readDigit : JsonReader ℕ where
  fromStr text :=
    match text with
    | [c] =>
        if c.isDigit then .ok (c.toNat - '0'.toNat)
        else .error "expected value at line 1 column 1"
    | _ => .error "expected value at line 1 column 1"
  empty_error value := by
    intro h
    exact absurd h (by simp)

/-- A result below a notice of the interpreter. -/
def noticed : Printed readDigit 7 where
  output :=
    { stdout := String.ofList ['?', '\n', '7', '\n']
      stderr := ""
      status := some 0
      elapsed := 0 }
  before := [['?']]
  result := ['7']
  after := []
  succeeded := rfl
  lines_eq := by
    rw [String.toList_ofList]
    decide
  reads := by decide
  silent := by
    intro line hline other
    obtain rfl : line = ['?'] := by simpa using hline
    have herror : readDigit.fromStr (Words.trim ['?']) =
        .error "expected value at line 1 column 1" := by
      decide
    rw [herror]
    exact fun h => nomatch h

/-- A notice takes the measurement from PHP, and from nothing else. -/
theorem not_yieldsResults_noticed : ¬ YieldsResults noticed noticed := by
  intro h
  have hwhole := (noticed.measure_eq_iff "sort").mp (h.phpMeasurement "sort")
  have hstdout : Words.trim noticed.output.stdout.toList =
      ['?', '\n', '7'] := by
    rw [noticed, String.toList_ofList]
    decide
  rw [hstdout] at hwhole
  exact nomatch hwhole

end RuntimeOutput

end Darcbench
