import Darcbench.Agent.View
import Darcbench.Protocol.Codec

/-!
# Plain progress lines

What a run prints when there is no terminal to draw on.  A line appears for
every transition that matters, and progress is announced when it crosses one of
a few fractions.
-/

namespace Darcbench

/-- Whether output is decorated with escape sequences. -/
structure Style where
  enabled : Bool

namespace Style

def wrap (style : Style) (code text : String) : String :=
  if style.enabled then s!"{code}{text}\x1b[0m" else text

def dim (style : Style) : String → String := style.wrap "\x1b[2m"
def bold (style : Style) : String → String := style.wrap "\x1b[1m"
def cyan (style : Style) : String → String := style.wrap "\x1b[36m"
def green (style : Style) : String → String := style.wrap "\x1b[32m"
def yellow (style : Style) : String → String := style.wrap "\x1b[33m"
def red (style : Style) : String → String := style.wrap "\x1b[31m"

end Style

/-- The state of the plain follower, with the lines it has printed. -/
structure Progress where
  /-- How many steps were announced already, per module. -/
  announced : BTreeMap String ℕ
  lastSeq : Option ℕ
  printed : List String

namespace Progress

variable {F : Type} [F64 F]

def default : Progress where
  announced := ∅
  lastSeq := none
  printed := []

def println (progress : Progress) (line : String) : Progress :=
  { progress with printed := progress.printed ++ [line] }

/-- The fractions at which progress is announced, with their texts. -/
def steps : List (F × String) :=
  [(0.25, "25%"), (0.5, "50%"), (0.75, "75%"), (1.0, "100%")]

def reached (moduleProgress : F) : ℕ :=
  (steps.filter fun step =>
    decide (step.1 ≤ moduleProgress + F64.epsilon)).length

/-- Announces a sample that crosses a step nobody was told about. -/
def foldModuleSample (progress : Progress) (style : Style)
    (sample : ModuleSampleEvent F) : Progress :=
  let reached := reached sample.moduleProgress
  let announced := (progress.announced[sample.module.asStr]?).getD 0
  if announced < reached then
    let text := ((steps (F := F))[min (reached - 1) 3]?.map Prod.snd).getD ""
    { progress with
      announced := progress.announced.insert sample.module.asStr
        reached }.println
      s!"         {style.dim sample.module.asStr}  {text}"
  else
    { progress with
      announced := progress.announced.insert sample.module.asStr announced }

def foldPreflightCompleted (progress : Progress) (style : Style)
    (preflight : PreflightCompleted) : Progress :=
  let outcome :=
    if preflight.passed then style.green "passed" else style.red "BLOCKED"
  (preflight.findings.filter PreflightFinding.blocking).foldl
    (fun progress finding =>
      progress.println ("    " ++ style.red "blocked" ++ " " ++ finding.message))
    (progress.println (s!"  preflight    {preflight.risk.debug}  {outcome}  " ++
      s!"~{preflight.estimatedDurationS}s"))

def completionText (style : Style) : ModuleStatus → String
  | .completed => style.green "done  "
  | .failed | .cancelled => style.red "done  "
  | .degraded | .skipped => style.yellow "done  "

def foldModuleCompleted (progress : Progress) (style : Style)
    (completed : ModuleCompletedEvent F) : Progress :=
  let result := completed.result
  progress.println
    (s!"  {completionText style result.status} {result.module.id.asStr} " ++
      s!"{result.status.debug.toLower} ({result.metrics.length} metric(s))")

/-- A module that starts again announces its progress again. -/
def foldModuleStarted (progress : Progress) (style : Style)
    (life : ModuleLifecycle) : Progress :=
  { progress with
    announced := progress.announced.erase life.module.id.asStr }.println
    ("  " ++ style.cyan "start " ++
      s!" {life.module.id.asStr} ({life.index + 1}/{life.total})")

/-- What an event prints, its number apart. -/
def foldEvent (progress : Progress) (style : Style) : Event F → Progress
  | .runCreated created =>
      (progress.println
        (style.bold "DARCBench" ++
          s!" profile {Profile.naming.name created.profile}  " ++
          s!"({created.modules.length} module(s), " ++
          s!"agent {created.agentVersion})")).println
        (style.yellow
          ("Scoring model is uncalibrated development output; raw " ++
            "measurements are real."))
  | .preflightCompleted preflight =>
      progress.foldPreflightCompleted style preflight
  | .moduleStarted life => progress.foldModuleStarted style life
  | .moduleSample sample => progress.foldModuleSample style sample
  | .moduleWarning warning =>
      progress.println
        ("  " ++ style.yellow "warn  " ++
          s!" {warning.module.asStr}: {warning.warning.message}")
  | .moduleCompleted completed => progress.foldModuleCompleted style completed
  | .moduleFailed failed =>
      progress.println
        ("  " ++ style.red "failed" ++
          s!" {failed.module.id.asStr}: {failed.error}")
  | .runCompleted completed =>
      progress.println
        ("  " ++ style.bold "finish" ++ s!" {completed.state.debug}  " ++
          s!"verdict {completed.verdict.state.debug}")
  | _ => progress

/-- Folds one event that was not seen before. -/
def apply (style : Style) (progress : Progress) (envelope : Envelope F) :
    Progress :=
  { progress with lastSeq := some envelope.seq }.foldEvent style
    envelope.event

@[simp] theorem lastSeq_println (progress : Progress) (line : String) :
    (progress.println line).lastSeq = progress.lastSeq :=
  rfl

theorem lastSeq_foldModuleSample (progress : Progress) (style : Style)
    (sample : ModuleSampleEvent F) :
    (progress.foldModuleSample style sample).lastSeq = progress.lastSeq := by
  rw [foldModuleSample]
  split <;> rfl

theorem lastSeq_foldPreflightCompleted (progress : Progress) (style : Style)
    (preflight : PreflightCompleted) :
    (progress.foldPreflightCompleted style preflight).lastSeq =
      progress.lastSeq := by
  have hlines (findings : List PreflightFinding) (progress : Progress) :
      (findings.foldl (fun progress finding =>
        progress.println
          ("    " ++ style.red "blocked" ++ " " ++ finding.message))
          progress).lastSeq = progress.lastSeq := by
    induction findings generalizing progress with
    | nil => rfl
    | cons finding rest ih => exact ih _
  exact hlines _ _

/-- No event touches the number of the last one. -/
theorem lastSeq_foldEvent (progress : Progress) (style : Style)
    (event : Event F) :
    (progress.foldEvent style event).lastSeq = progress.lastSeq := by
  cases event with
  | preflightCompleted body =>
      exact progress.lastSeq_foldPreflightCompleted style body
  | moduleSample body => exact progress.lastSeq_foldModuleSample style body
  | _ => rfl

/-- The plain follower as an observer. -/
def observer (style : Style) : Observer Progress F where
  lastSeq := Progress.lastSeq
  apply := apply style
  lastSeq_apply _ _ := lastSeq_foldEvent _ _ _

end Progress

end Darcbench
