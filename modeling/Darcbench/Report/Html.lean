import Darcbench.Protocol.Codec
import Darcbench.Protocol.Display
import Darcbench.Report.Bundle
import Darcbench.Support.Html
import Darcbench.Support.Words

/-!
# The HTML report

The report is a page of literal markup, of numbers, and of texts from the
bundle, which are escaped.
-/

namespace Darcbench

/-! ## Names -/

def SustainedCause.label : SustainedCause → String
  | sustained => "Performance sustained"
  | thermalThrottling => "Thermal or power throttling"
  | burstCreditExhaustion => "Burst credits exhausted"
  | noisyNeighbour => "Noisy neighbour / host contention"
  | undiagnosed => "Decline not explained by telemetry"

def WarningCode.debug : WarningCode → String
  | highVariance => "HighVariance"
  | stealTimeObserved => "StealTimeObserved"
  | frequencyDrop => "FrequencyDrop"
  | thermalThrottle => "ThermalThrottle"
  | preexistingLoad => "PreexistingLoad"
  | externalLoad => "ExternalLoad"
  | memoryPressure => "MemoryPressure"
  | containerScoped => "ContainerScoped"
  | validationFailed => "ValidationFailed"
  | generatorSaturated => "GeneratorSaturated"
  | informational => "Informational"

def Scope.debug : Scope → String
  | bareMetal => "BareMetal"
  | virtualMachine => "VirtualMachine"
  | container => "Container"
  | unknown => "Unknown"

/-- The floor below which a run has declined. -/
def retentionFloor {F : Type} [F64 F] : F := 0.95

def SustainedOutcome.declined {F : Type} [F64 F]
    (sustained : SustainedOutcome F) : Bool :=
  decide (sustained.retention < retentionFloor)

/-- Fractional fall of the clock over the run. -/
def TelemetrySummary.frequencyDrop {F : Type} [F64 F]
    (t : TelemetrySummary F) : Option F := do
  let first ← t.cpuFreqMhzFirst
  let last ← t.cpuFreqMhzLast
  if 0.0 < first then some (1.0 - last / first) else none

namespace Page

/-! ## Pieces -/

/-- Text for insertion into the page. -/
def escapeChar (c : Char) : String :=
  if c = '&' then "&amp;"
  else if c = '<' then "&lt;"
  else if c = '>' then "&gt;"
  else if c = '"' then "&quot;"
  else if c = '\'' then "&\x23x27;"
  else c.toString

def escape (input : String) : String :=
  String.join (input.toList.map escapeChar)

/-- A piece of the page. -/
inductive Segment where
  /-- Markup of the template. -/
  | markup (html : String) (closed : Html.IsClosed html.toList)
  /-- A number or a name of the program, which is put in as it is. -/
  | plain (text : String)
  /-- A text that is escaped. -/
  | escaped (text : String)

/-- What a piece contributes to the page. -/
def Segment.html : Segment → String
  | markup html _ => html
  | plain text => text
  | escaped text => escape text

def literal (html : String)
    (closed : Html.IsClosed html.toList := by
      rw [String.toList_ofList]; decide +kernel) : Segment :=
  .markup html closed

/-- Markup with the name of a class of the style sheet in it. -/
def classed (before name after : String)
    (closed : Html.IsClosed (before.toList ++ name.toList ++ after.toList)) :
    Segment :=
  .markup (before ++ name ++ after)
    (by rw [String.toList_append, String.toList_append]; exact closed)

/-- The formats of the language and of the date library. -/
structure Formats where
  debugReason : VerdictReason → String
  toRfc3339 : Timestamp → String

def statusDebug : ModuleStatus → String
  | .completed => "Completed"
  | .degraded => "Degraded"
  | .failed => "Failed"
  | .cancelled => "Cancelled"
  | .skipped => "Skipped"

def stateClass : ResultState → String
  | .invalid => "bad"
  | .partialState | .custom | .localState => "warn"
  | _ => "ok"

section Numbers

variable {F : Type} [F64 F] [F64.Display F]

/-- The format `{:.N}`. -/
def fixed (decimals : ℕ) (a : F) : String :=
  F64.Display.fixed decimals a

/-- The format `{:+.N}`. -/
def signedFixed (decimals : ℕ) (a : F) : String :=
  if F64.isNan a || (fixed decimals a).toList.head? = some '-' then
    fixed decimals a
  else
    "+" ++ fixed decimals a

def fmtScore : Option F → String
  | some v => if F64.isFinite v then fixed 0 v else "-"
  | none => "-"

def count (n : ℕ) : Segment :=
  .plain (toString n)

def percent (decimals : ℕ) (a : F) : Segment :=
  .plain (fixed decimals (a * 100.0))

end Numbers

/-! ## The parts of the page -/

/-- The start of the page, with its style sheet. -/
def head : List Segment :=
  [literal "<!doctype html>\n",
   literal "<html lang=\"en\"><head><meta charset=\"utf-8\">\n",
   literal "<meta name=\"viewport\" content=\"width=device-width,initial-scale=1\">",
   literal "\n",
   literal "<meta name=\"referrer\" content=\"no-referrer\">\n",
   literal "<title>DARCBench report</title>\n",
   literal "<style>\n",
   literal ":root\x7b--bg:\x23070a12;--panel:\x230e1422;--line:\x231d2740;",
   literal "--fg:\x23e8eef8;--dim:\x2393a1bd;\n",
   literal "--cyan:\x2322e0ff;--blue:\x233b7dff;--violet:\x239b6bff;",
   literal "--ok:\x233ddc97;--warn:\x23ffb547;--bad:\x23ff5c73\x7d\n",
   literal "*\x7bbox-sizing:border-box\x7d\n",
   literal "body\x7bmargin:0;padding:2rem 1.25rem 4rem;background:var(--bg);",
   literal "color:var(--fg);\n",
   literal "font:15px/1.55 ui-sans-serif,system-ui,-apple-system,\"Segoe ",
   literal "UI\",Roboto,sans-serif;\n",
   literal "max-width:1100px;margin-inline:auto\x7d\n",
   literal "code\x7bfont-family:ui-monospace,SFMono-Regular,Menlo,monospace;",
   literal "font-size:.86em;\n",
   literal "background:\x23131c30;padding:.1em .4em;border-radius:4px;",
   literal "color:var(--cyan);word-break:break-all\x7d\n",
   literal ".hdr\x7bdisplay:flex;flex-wrap:wrap;gap:1.5rem;",
   literal "justify-content:space-between;\n",
   literal "align-items:flex-end;border-bottom:1px solid var(--line);",
   literal "padding-bottom:1rem;margin-bottom:1.5rem\x7d\n",
   literal ".mark\x7bfont-weight:800;letter-spacing:.06em;font-size:1.5rem;",
   literal "\n",
   literal "background:linear-gradient(90deg,var(--cyan),var(--blue) 55%,",
   literal "var(--violet));\n",
   literal "-webkit-background-clip:text;background-clip:text;",
   literal "color:transparent\x7d\n",
   literal ".sub\x7bdisplay:block;color:var(--dim);font-size:.74rem;",
   literal "letter-spacing:.22em;text-transform:uppercase\x7d\n",
   literal ".runmeta\x7bfont-size:.82rem;color:var(--dim);",
   literal "text-align:right\x7d\n",
   literal ".runmeta .k\x7bcolor:var(--dim);text-transform:uppercase;",
   literal "letter-spacing:.1em;font-size:.68rem;\n",
   literal "margin-right:.4rem\x7d\n",
   literal ".banner\x7bborder:1px solid var(--warn);background:rgba(255,181,",
   literal "71,.09);color:\x23ffdca8;\n",
   literal "padding:.85rem 1rem;border-radius:10px;margin-bottom:1.5rem;",
   literal "font-size:.9rem\x7d\n",
   literal ".warn-banner\x7bmargin-top:-.5rem\x7d\n",
   literal ".scores\x7bmargin-bottom:2rem\x7d\n",
   literal ".total\x7bborder:1px solid var(--line);border-radius:14px;",
   literal "padding:1.25rem 1.5rem;\n",
   literal "background:linear-gradient(160deg,\x23101a30,\x230b1120);",
   literal "margin-bottom:1rem\x7d\n",
   literal ".total .value\x7bfont-size:3.2rem;font-weight:800;line-height:1;",
   literal "letter-spacing:-.02em\x7d\n",
   literal ".total.ok .value\x7bcolor:var(--ok)\x7d.total.warn ",
   literal ".value\x7bcolor:var(--warn)\x7d.total.bad ",
   literal ".value\x7bcolor:var(--bad)\x7d\n",
   literal ".grid\x7bdisplay:grid;gap:.75rem;",
   literal "grid-template-columns:repeat(auto-fill,minmax(190px,1fr))\x7d\n",
   literal ".card\x7bborder:1px solid var(--line);border-radius:10px;",
   literal "padding:.85rem 1rem;background:var(--panel)\x7d\n",
   literal ".card .value\x7bfont-size:1.6rem;font-weight:700;",
   literal "color:var(--cyan)\x7d\n",
   literal ".label\x7bcolor:var(--dim);font-size:.7rem;",
   literal "text-transform:uppercase;letter-spacing:.12em\x7d\n",
   literal ".note\x7bcolor:var(--dim);font-size:.78rem;",
   literal "margin-top:.25rem\x7d\n",
   literal "h2\x7bfont-size:1.05rem;letter-spacing:.04em;",
   literal "text-transform:uppercase;color:var(--dim);\n",
   literal "border-bottom:1px solid var(--line);padding-bottom:.4rem;",
   literal "margin:2.2rem 0 .9rem\x7d\n",
   literal "h3\x7bfont-size:.98rem;margin:1.4rem 0 .5rem\x7d\n",
   literal ".ver\x7bcolor:var(--dim);font-weight:400;font-size:.8rem\x7d\n",
   literal ".badge\x7bfont-size:.7rem;border:1px solid var(--line);",
   literal "border-radius:999px;padding:.1rem .55rem;\n",
   literal "color:var(--dim);vertical-align:middle\x7d\n",
   literal "table\x7bwidth:100%;border-collapse:collapse;",
   literal "font-size:.87rem\x7d\n",
   literal "th,td\x7btext-align:left;padding:.45rem .6rem;border-bottom:1px ",
   literal "solid var(--line);vertical-align:top\x7d\n",
   literal "th\x7bcolor:var(--dim);font-weight:600;white-space:nowrap\x7d\n",
   literal ".metrics thead th\x7bfont-size:.7rem;text-transform:uppercase;",
   literal "letter-spacing:.08em\x7d\n",
   literal ".num\x7btext-align:right;font-variant-numeric:tabular-nums\x7d\n",
   literal ".state\x7bfont-weight:700;font-size:1.1rem\x7d\n",
   literal ".state.ok\x7bcolor:var(--ok)\x7d.state.warn\x7bcolor:var(--warn)",
   literal "\x7d.state.bad\x7bcolor:var(--bad)\x7d\n",
   literal ".reasons,.warnings\x7bcolor:var(--dim);font-size:.85rem;",
   literal "padding-left:1.1rem\x7d\n",
   literal ".warnings li\x7bmargin:.2rem 0\x7d\n",
   literal "footer\x7bmargin-top:3rem;padding-top:1rem;border-top:1px solid ",
   literal "var(--line);\n",
   literal "color:var(--dim);font-size:.78rem\x7d\n",
   literal "@media print\x7bbody\x7bbackground:\x23fff;color:\x23000;",
   literal "max-width:none\x7d\n",
   literal ".card,.total,",
   literal "table\x7bborder-color:\x23ccc\x7d.mark\x7bcolor:\x23000;",
   literal "-webkit-text-fill-color:\x23000\x7d\n",
   literal ".banner\x7bborder-color:\x23000;color:\x23000;",
   literal "background:\x23f5f5f5\x7d\x7d\n",
   literal "@media ",
   literal "(prefers-reduced-motion:reduce)\x7b*\x7banimation:none!important",
   literal ";transition:none!important\x7d\x7d\n",
   literal "</style></head><body>"]

def foot : List Segment :=
  [literal "<footer>\n",
   literal "Generated by DARCBench &mdash; Tombatossals Softworks LLC.\n",
   literal "Raw measurements in this report are reproducible from the ",
   literal "accompanying\n",
   literal "<code>bundle.json</code>; scores are derived and can be ",
   literal "recomputed from it.\n",
   literal "</footer></body></html>"]

variable {F : Type} [F64 F] [F64.Display F]

def header (formats : Formats) (bundle : Bundle F) : List Segment :=
  [literal "<header class=\"hdr\">\n",
   literal "  <div class=\"brand\"><span class=\"mark\">DARC//BENCH</span>\n",
   literal "    <span class=\"sub\">Deployment &middot; Application &middot;",
   literal " Runtime &middot; Compute</span></div>\n",
   literal "  <div class=\"runmeta\">\n",
   literal "    <div><span class=\"k\">Run</span> <code>",
   .escaped bundle.run.runId.asStr,
   literal "</code></div>\n",
   literal "    <div><span class=\"k\">Profile</span> ",
   .escaped (Profile.naming.name bundle.run.profile),
   literal "</div>\n",
   literal "    <div><span class=\"k\">Finished</span> ",
   .escaped (formats.toRfc3339 bundle.run.finishedAt),
   literal "</div>\n",
   literal "  </div>\n",
   literal "</header>"]

def calibrationBanner (bundle : Bundle F) : List Segment :=
  if bundle.scores.uncalibrated then
    [literal "<div class=\"banner\">\n",
     literal "  <strong>Provisional scores.</strong> The DARCBench scoring ",
     literal "model\n",
     literal "  (<code>dbs/0.2.0-dev</code>) has not yet been calibrated ",
     literal "against a physical\n",
     literal "  DARC-REF-1 reference machine. The reference values are ",
     literal "declared targets, not\n",
     literal "  measurements. Raw metrics below are real; the scores ",
     literal "derived from them are\n",
     literal "  development output and are not comparable with any future ",
     literal "calibrated release.\n",
     literal "</div>"]
  else []

/-- Markup that shows a state. -/
def stateMarkup (state : ResultState) (before after : String)
    (closed : ∀ name ∈ [['b', 'a', 'd'], ['w', 'a', 'r', 'n'], ['o', 'k']],
      Html.IsClosed (before.toList ++ name ++ after.toList)) : Segment :=
  classed before (stateClass state) after
    (closed _ (by cases state <;> decide))

def totalNote (bundle : Bundle F) : List Segment :=
  if bundle.scores.totalIsStandard then
    [literal "standard profile"]
  else
    [literal "not a standard total &mdash; ",
     count bundle.scores.missingRequiredCategories.length,
     literal " required categor(y|ies) missing"]

def scoreSummary (bundle : Bundle F) : List Segment :=
  [literal "<section class=\"scores\">\n",
   literal "  ",
   stateMarkup bundle.verdict.state "<div class=\"total " "\">"
      (by rw [String.toList_ofList, String.toList_ofList]; decide +kernel),
   literal "\n",
   literal "    <div class=\"label\">DARCBench Total Score</div>\n",
   literal "    <div class=\"value\">",
   .plain (fmtScore bundle.scores.total),
   literal "</div>\n",
   literal "    <div class=\"note\">"] ++
  totalNote bundle ++
  [literal "</div>\n",
   literal "  </div>\n",
   literal "  <div class=\"grid\">"]

def basket (category : CategoryOutcome F) : List Segment :=
  if category.modules.isEmpty then []
  else
    [literal "<div class=\"note\">from ",
     .escaped (", ".intercalate category.modules),
     literal "</div>"]

def categoryCard (category : CategoryOutcome F) : List Segment :=
  [literal "<div class=\"card\"><div class=\"label\">",
   .escaped category.label,
   literal "</div><div class=\"value\">",
   .plain (fmtScore (some category.score)),
   literal "</div>\n",
   literal "               <div class=\"note\">",
   count category.metricCount,
   literal " metric(s) &middot; weight ",
   percent 0 category.weight,
   literal "%</div>"] ++
  basket category ++
  [literal "</div>"]

def facetCard (facet : String × F) : List Segment :=
  [literal "<div class=\"card\"><div class=\"label\">",
   .escaped (facet.1.map fun c => if c = '_' then ' ' else c),
   literal "</div><div class=\"value\">",
   .plain (fmtScore (some facet.2)),
   literal "</div>\n",
   literal "               <div class=\"note\">derived facet</div></div>"]

def stabilityCard (bundle : Bundle F) : List Segment :=
  [literal "<div class=\"card\"><div class=\"label\">Stability Score</div>",
   literal "<div class=\"value\">",
   .plain (fmtScore (some bundle.scores.stabilityScore)),
   literal "</div>\n",
   literal "           <div class=\"note\">median CV "] ++
  (bundle.scores.medianCv.map fun cv =>
    [percent 1 cv, literal "%"]).getD [literal "n/a"] ++
  [literal "</div></div>"]

def sustainedCard (sustained : SustainedOutcome F) : List Segment :=
  [literal "<div class=\"card\"><div class=\"label\">Sustained Performance ",
   literal "Score</div>\n",
   literal "               <div class=\"value\">",
   .plain (fmtScore (some sustained.score)),
   literal "</div>\n",
   literal "               <div class=\"note\">kept ",
   percent 0 sustained.retention,
   literal "% over ",
   count sustained.cycles,
   literal " cycles</div></div>"]

/-- The metrics that lost the most come first. -/
def worst (sustained : SustainedOutcome F) : List (String × F) :=
  sustained.byMetric.toList.mergeSort fun a b => F64.totalLe a.2 b.2

def metricRow (entry : String × F) : List Segment :=
  [literal "<tr><th>",
   .escaped entry.1,
   literal "</th><td>",
   percent 0 entry.2,
   literal "%</td></tr>"]

def sustainedSection (sustained : SustainedOutcome F)
    (diagnosis : SustainedDiagnosis F) : List Segment :=
  [literal "<section><h2>Sustained performance</h2>\n",
   literal "            ",
   classed "<div class=\""
      (if sustained.declined then "banner warn-banner" else "banner")
      "\">"
      (by
        split <;>
          (rw [String.toList_ofList, String.toList_ofList,
            String.toList_ofList]; decide +kernel)),
   literal "<strong>",
   .escaped diagnosis.cause.label,
   literal "</strong> ",
   .escaped diagnosis.explanation,
   literal "</div>\n",
   literal "            <table><tbody>\n",
   literal "            <tr><th>Retention</th><td>",
   percent 1 sustained.retention,
   literal "% of the opening figure</td></tr>\n",
   literal "            <tr><th>Cycles completed</th><td>",
   count sustained.cycles,
   literal "</td></tr>\n",
   literal "            <tr><th>Scored from</th><td>cycle ",
   count sustained.scoredCycle,
   literal " (the last complete one)</td></tr>\n",
   literal "            <tr><th>Steal time</th><td>",
   .plain (fixed 1 diagnosis.evidence.stealPctOpening),
   literal "% at the start, ",
   .plain (fixed 1 diagnosis.evidence.stealPctClosing),
   literal "% at the end\n",
   literal "                (± ",
   .plain (fixed 1 diagnosis.evidence.stealPctStddev),
   literal " points)</td></tr>\n",
   literal "            <tr><th>Clock change</th><td>"] ++
  (diagnosis.evidence.frequencyDrop.map fun d =>
    [.plain (signedFixed 1 (d * (0.0 - 100.0))), literal "%"]).getD
      [literal "not exposed by this host"] ++
  [literal "</td></tr>\n",
   literal "            <tr><th>Temperature change</th><td>"] ++
  (diagnosis.evidence.temperatureRiseC.map fun t =>
    [.plain (signedFixed 0 t), literal " C"]).getD
      [literal "no sensor"] ++
  [literal "</td></tr>\n",
   literal "            </tbody></table>",
   literal "<h3>Retention by metric</h3><table><tbody>"] ++
  ((worst sustained).take 8).flatMap metricRow ++
  [literal "</tbody></table></section>"]

def stoppedBanner (reason : String) : List Segment :=
  [literal "<div class=\"banner warn-banner\"><strong>This run was stopped ",
   literal "early.</strong>\n",
   literal "            ",
   .escaped reason,
   literal "</div>"]

def item (text : String) : List Segment :=
  [literal "<li>",
   .escaped text,
   literal "</li>"]

def guardsBanner (bundle : Bundle F) : List Segment :=
  if bundle.run.guardsNotEnforced.isEmpty then []
  else
    [literal "<div class=\"banner warn-banner\"><strong>Not every guard ",
     literal "could run here.</strong>\n",
     literal "            <ul>"] ++
    bundle.run.guardsNotEnforced.flatMap item ++
    [literal "</ul></div>"]

def weakLinkBanner (bundle : Bundle F) : List Segment :=
  if bundle.scores.weakLinkApplied then
    [literal "<div class=\"banner warn-banner\"><strong>Weak-link cap ",
     literal "applied.</strong>\n",
     literal "            The aggregate before the cap was ",
     .plain (fmtScore bundle.scores.uncappedTotal),
     literal "; it was reduced to ",
     .plain (fmtScore bundle.scores.total),
     literal " because one\n",
     literal "            subsystem is far slower than the rest of the ",
     literal "machine (balance index\n",
     literal "            "] ++
    (bundle.scores.balanceIndex.map fun v =>
      [.plain (fixed 2 v)]).getD [literal "n/a"] ++
    [literal "). See <code>docs/SCORING-SYSTEM.md</code>.</div>"]
  else []

def verdictSection (formats : Formats) (bundle : Bundle F) : List Segment :=
  [literal "<section><h2>Result state</h2>",
   stateMarkup bundle.verdict.state "<p class=\"state " "\">"
      (by rw [String.toList_ofList, String.toList_ofList]; decide +kernel),
   .plain bundle.verdict.state.debug,
   literal "</p><ul class=\"reasons\">"] ++
  (if bundle.verdict.reasons.isEmpty then [literal "<li>No findings.</li>"]
    else []) ++
  bundle.verdict.reasons.flatMap (fun reason =>
    item (formats.debugReason reason)) ++
  [literal "</ul><p class=\"note\">Validator ",
   .escaped bundle.verdict.validatorVersion,
   literal "</p></section>"]

/-- The rows of the environment table. -/
def environmentRows (bundle : Bundle F) : List (String × String) :=
  let env := bundle.environment
  let number (n : Option ℕ) : String := (n.map toString).getD "?"
  [("Scope", env.platform.scope.debug),
   ("Virtualization", env.platform.virtualization.getD "none detected"),
   ("CPU", env.cpu.model.getD "unknown"),
   ("Topology",
      toString env.cpu.logicalCpus ++ " logical / " ++
        number env.cpu.physicalCores ++ " physical core(s) / " ++
        number env.cpu.sockets ++ " socket(s)"),
   ("Governor", env.cpu.governor.getD "unknown"),
   ("Memory",
      fixed 1 ((F64.ofNat env.memory.totalBytes : F) / 1073741824.0) ++
        " GiB"),
   ("Kernel", env.platform.kernelRelease.getD "unknown"),
   ("Distribution",
      env.platform.distribution.getD "" ++ " " ++
        env.platform.distributionVersion.getD ""),
   ("cgroup CPU limit",
      (env.platform.cgroupCpuLimit.map fun v =>
        fixed 2 v ++ " CPU").getD "none"),
   ("Agent",
      bundle.metadata.agentVersion ++ " (" ++ bundle.metadata.buildProfile ++
        ")"),
   ("Build target", bundle.metadata.buildTarget)]

def environmentRow (row : String × String) : List Segment :=
  [literal "<tr><th>",
   .escaped row.1,
   literal "</th><td>",
   .escaped (String.ofList (Words.trim row.2.toList)),
   literal "</td></tr>"]

/-- The fields that could not be determined, with commas between them. -/
def gapList (gaps : List Gap) : List Segment :=
  ((gaps.map fun gap => [.escaped gap.field]).intersperse
    [literal ", "]).flatten

def environmentSection (bundle : Bundle F) : List Segment :=
  [literal "<section><h2>Environment</h2><table><tbody>"] ++
  (environmentRows bundle).flatMap environmentRow ++
  [literal "</tbody></table>"] ++
  (if bundle.environment.gaps.isEmpty then []
    else
      [literal "<p class=\"note\">Undetermined: "] ++
      gapList bundle.environment.gaps ++
      [literal "</p>"]) ++
  [literal "</section>"]

/-! Markup that is used in several places. -/

theorem isClosed_firstCell : Html.IsClosed "<tr><td>".toList := by
  rw [String.toList_ofList]
  decide +kernel

theorem isClosed_numberCell :
    Html.IsClosed "</td><td class=\"num\">".toList := by
  rw [String.toList_ofList]
  decide +kernel

theorem isClosed_nextCell : Html.IsClosed "</td><td>".toList := by
  rw [String.toList_ofList]
  decide +kernel

theorem isClosed_absent : Html.IsClosed "-".toList := by
  rw [String.toList_ofList]
  decide +kernel

theorem isClosed_between : Html.IsClosed " - ".toList := by
  rw [String.toList_ofList]
  decide +kernel

def measurementRow (metric : Metric F) : List Segment :=
  [literal "<tr><td>" isClosed_firstCell,
   .escaped metric.key,
   literal "</td><td class=\"num\">" isClosed_numberCell,
   .plain (fixed 2 metric.value),
   literal "</td><td>" isClosed_nextCell,
   .escaped metric.unit,
   literal "</td><td class=\"num\">" isClosed_numberCell,
   count metric.summary.n,
   literal "</td><td class=\"num\">" isClosed_numberCell] ++
  (metric.summary.cv.map fun v =>
    [percent 1 v, literal "%"]).getD [literal "-" isClosed_absent] ++
  [literal "</td><td class=\"num\">" isClosed_numberCell,
   .plain (fixed 2 metric.summary.min),
   literal "</td><td class=\"num\">" isClosed_numberCell,
   .plain (fixed 2 metric.summary.max),
   literal "</td><td class=\"num\">" isClosed_numberCell] ++
  (metric.summary.ci95.map fun (lo, hi) =>
    [.plain (fixed 1 lo), literal " - " isClosed_between,
     .plain (fixed 1 hi)]).getD
      [literal "-" isClosed_absent] ++
  [literal "</td></tr>"]

def warningItem (warning : Warning) : List Segment :=
  [literal "<li><code>",
   .plain warning.code.debug,
   literal "</code> ",
   .escaped warning.message,
   literal "</li>"]

def moduleSection (result : ModuleResult F) : List Segment :=
  [literal "<h3>",
   .escaped result.module.id.asStr,
   literal " <span class=\"ver\">v",
   .escaped result.module.version,
   literal "</span> <span class=\"badge\">",
   .plain (statusDebug result.status),
   literal "</span></h3>\n",
   literal "            <table class=\"metrics\"><thead><tr>\n",
   literal "            <th>Metric</th><th>Median</th><th>Unit</th><th>",
   literal "n</th><th>CV</th>\n",
   literal "            <th>Min</th><th>Max</th><th>95% CI</th></tr></thead>",
   literal "<tbody>"] ++
  result.metrics.flatMap measurementRow ++
  [literal "</tbody></table>"] ++
  (if result.warnings.isEmpty then []
    else
      [literal "<ul class=\"warnings\">"] ++
      result.warnings.flatMap warningItem ++
      [literal "</ul>"])

def measurementsSection (bundle : Bundle F) : List Segment :=
  [literal "<section><h2>Raw measurements</h2>"] ++
  bundle.modules.flatMap moduleSection ++
  (if bundle.modules.isEmpty then
      [literal "<p class=\"note\">No module produced measurements.</p>"]
    else []) ++
  [literal "</section>"]

def telemetrySection (t : TelemetrySummary F) : List Segment :=
  [literal "<section><h2>Telemetry during the run</h2><table><tbody>\n",
   literal "        <tr><th>Samples</th><td>",
   count t.samples,
   literal "</td></tr>\n",
   literal "        <tr><th>Mean CPU busy</th><td>",
   .plain (fixed 1 t.cpuBusyPctMean),
   literal "%</td></tr>\n",
   literal "        <tr><th>Peak CPU used by other work</th><td>",
   .plain (fixed 1 t.cpuExternalBusyPctMax),
   literal "% of the machine, excluding this benchmark</td></tr>\n",
   literal "        <tr><th>Mean / peak CPU steal</th><td>",
   .plain (fixed 2 t.cpuStealPctMean),
   literal "% / ",
   .plain (fixed 2 t.cpuStealPctMax),
   literal "%</td></tr>\n",
   literal "        <tr><th>Mean I/O wait</th><td>",
   .plain (fixed 2 t.cpuIowaitPctMean),
   literal "%</td></tr>\n",
   literal "        <tr><th>Peak load1</th><td>",
   .plain (fixed 2 t.load1Max),
   literal "</td></tr>\n",
   literal "        <tr><th>Peak swap used</th><td>",
   count (t.swapUsedBytesMax / (1024 * 1024)),
   literal " MiB</td></tr>\n",
   literal "        <tr><th>CPU frequency drift</th><td>"] ++
  (t.frequencyDrop.map fun d =>
    [percent 1 d, literal "% lower at the end of the run"]).getD
      [literal "not observable"] ++
  [literal "</td></tr>\n",
   literal "        <tr><th>Peak CPU temperature</th><td>"] ++
  (t.cpuTempCMax.map fun v =>
    [.plain (fixed 1 v), literal " &deg;C"]).getD
      [literal "n/a"] ++
  [literal "</td></tr>\n",
   literal "        </tbody></table></section>"]

theorem isClosed_key : Html.IsClosed " &middot; key <code>".toList := by
  rw [String.toList_ofList]
  decide +kernel

theorem isClosed_codeEnd : Html.IsClosed "</code>".toList := by
  rw [String.toList_ofList]
  decide +kernel

theorem isClosed_unsigned : Html.IsClosed "unsigned".toList := by
  rw [String.toList_ofList]
  decide +kernel

def signatureNote : Option Signature → List Segment
  | some s =>
      [.escaped s.algorithm,
       literal " &middot; key <code>" isClosed_key,
       .escaped s.keyId,
       literal "</code>" isClosed_codeEnd]
  | none => [literal "unsigned" isClosed_unsigned]

def provenanceSection (bundle : Bundle F) : List Segment :=
  [literal "<section><h2>Provenance</h2><table><tbody>\n",
   literal "        <tr><th>Bundle schema</th><td>",
   .escaped bundle.metadata.schema,
   literal "</td></tr>\n",
   literal "        <tr><th>Event protocol</th><td>",
   .escaped bundle.metadata.protocol,
   literal "</td></tr>\n",
   literal "        <tr><th>Scoring model</th><td>",
   .escaped bundle.scores.scoringModel,
   literal " (reference ",
   .escaped bundle.scores.referenceProfile,
   literal ")</td></tr>\n",
   literal "        <tr><th>Environment digest</th><td><code>",
   .escaped bundle.run.environmentDigest,
   literal "</code></td></tr>\n",
   literal "        <tr><th>Event stream digest</th><td><code>",
   .escaped bundle.run.eventsDigest,
   literal "</code> over ",
   count bundle.run.eventCount,
   literal " event(s)</td></tr>\n",
   literal "        <tr><th>Signature</th><td>"] ++
  signatureNote bundle.signature ++
  [literal "</td></tr>\n",
   literal "        </tbody></table></section>"]

/-- The pieces of the report, in the order of the page. -/
def template (formats : Formats) (bundle : Bundle F) : List Segment :=
  head ++
  header formats bundle ++
  calibrationBanner bundle ++
  scoreSummary bundle ++
  bundle.scores.categories.flatMap categoryCard ++
  bundle.scores.facets.toList.flatMap facetCard ++
  stabilityCard bundle ++
  (bundle.scores.sustained.map sustainedCard).getD [] ++
  [literal "</div></section>"] ++
  (bundle.scores.sustained.bind fun sustained =>
    bundle.sustainedDiagnosis.map (sustainedSection sustained)).getD [] ++
  (bundle.run.stoppedBecause.map stoppedBanner).getD [] ++
  guardsBanner bundle ++
  weakLinkBanner bundle ++
  verdictSection formats bundle ++
  environmentSection bundle ++
  measurementsSection bundle ++
  telemetrySection bundle.telemetry ++
  provenanceSection bundle ++
  foot

/-- Renders a complete HTML report. -/
def render (formats : Formats) (bundle : Bundle F) : String :=
  String.join ((template formats bundle).map Segment.html)

end Page

end Darcbench
