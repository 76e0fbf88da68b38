import Darcbench.Report.StandIns
import Darcbench.Support.Table

/-!
# The run index

A database over the bundles on disk: one row for each run, with the rows of its
metrics and categories, which are replaced and removed together with it.
-/

namespace Darcbench

/-- The text form of timestamps with a numeric offset, as the date library
provides it. -/
class Rfc3339 where
  toRfc3339 : Timestamp → String
  parseFromRfc3339 : String → Option Timestamp

/-! ## Texts of columns -/

def CategoryKey.debug : CategoryKey → String
  | compute => "Compute"
  | memory => "Memory"
  | storage => "Storage"
  | network => "Network"
  | web => "Web"
  | database => "Database"
  | deployment => "Deployment"

/-- The name of a profile on the wire. -/
def Profile.asStr (profile : Profile) : String :=
  Profile.naming.name profile

def resultStateKey (state : ResultState) : String :=
  ResultState.naming.name state

/-- An unknown state reads as an invalid one. -/
def resultStateFromKey (key : String) : ResultState :=
  (ResultState.naming.find? key).getD .invalid

@[simp] theorem resultStateFromKey_resultStateKey (state : ResultState) :
    resultStateFromKey (resultStateKey state) = state := by
  rw [resultStateFromKey, resultStateKey, Naming.find?_name, Option.getD_some]

def directionKey (direction : Direction) : String :=
  Direction.naming.name direction

def directionFromKey (key : String) : Direction :=
  if key = "lower_is_better" then .lowerIsBetter else .higherIsBetter

@[simp] theorem directionFromKey_directionKey (direction : Direction) :
    directionFromKey (directionKey direction) = direction := by
  cases direction with
  | higherIsBetter => exact if_neg (by decide)
  | lowerIsBetter => exact if_pos rfl

/-! ## Rows -/

/-- A row of the table of metrics, below its run. -/
structure MetricRow (F : Type) where
  module : ModuleId
  cycle : ℕ
  metricKey : String
  value : F
  unit : String
  direction : String
  cv : Option F
  samples : ℕ

namespace MetricRow

def key {F : Type} (row : MetricRow F) : ModuleId × ℕ × String :=
  (row.module, row.cycle, row.metricKey)

end MetricRow

/-- A row of the table of categories, below its run. -/
structure CategoryRow (F : Type) where
  key : String
  label : String
  score : F
  weight : F
  /-- The ids of the modules, with commas between them. -/
  modules : String

/-- The row of a run. -/
structure RunRow (F : Type) where
  runId : RunId
  profile : String
  runState : String
  resultState : String
  startedAt : String
  finishedAt : String
  durationMs : ℕ
  totalScore : Option F
  totalIsStandard : Bool
  scoringModel : String
  uncalibrated : Bool
  agentVersion : String
  buildTarget : String
  buildProfile : String
  environmentDigest : String
  bundleDigest : String
  modules : List String
  stoppedBecause : Option String
  /-- Size and modification time of the file the row was built from. -/
  identity : ℤ × ℤ
  metrics : Table (MetricRow.key (F := F))
  categories : Table (CategoryRow.key (F := F))

abbrev RunIndex (F : Type) : Type := Table (RunRow.runId (F := F))

/-- What a row says about its run. -/
structure IndexedRun (F : Type) where
  runId : RunId
  profile : String
  runState : String
  stoppedBecause : Option String
  resultState : ResultState
  finishedAt : Timestamp
  durationMs : ℕ
  totalScore : Option F
  totalIsStandard : Bool
  scoringModel : String
  agentVersion : String
  buildTarget : String
  environmentDigest : String
  bundleDigest : String
  modules : List String

def rowToRun {F : Type} [Rfc3339] (row : RunRow F) : IndexedRun F where
  runId := row.runId
  profile := row.profile
  runState := row.runState
  stoppedBecause := row.stoppedBecause
  resultState := resultStateFromKey row.resultState
  finishedAt := (Rfc3339.parseFromRfc3339 row.finishedAt).getD 0
  durationMs := row.durationMs
  totalScore := row.totalScore
  totalIsStandard := row.totalIsStandard
  scoringModel := row.scoringModel
  agentVersion := row.agentVersion
  buildTarget := row.buildTarget
  environmentDigest := row.environmentDigest
  bundleDigest := row.bundleDigest
  modules := row.modules

/-! ## Reading -/

namespace RunIndex

variable {F : Type} [Rfc3339]

/-- All rows, the run that finished last first.  Times are compared as the
texts that the column holds. -/
def list (index : RunIndex F) : List (IndexedRun F) :=
  (index.rows.mergeSort fun a b => b.finishedAt ≤ a.finishedAt).map rowToRun

def get (index : RunIndex F) (runId : RunId) : Option (IndexedRun F) :=
  (index.find? runId).map rowToRun

/-- The list names the runs of the rows. -/
theorem mem_list_iff {index : RunIndex F} {run : IndexedRun F} :
    run ∈ index.list ↔ ∃ row ∈ index.rows, rowToRun row = run := by
  rw [list, List.mem_map]
  simp only [List.mem_mergeSort]

end RunIndex

/-! ## Recording -/

inductive SqliteError where
  | toSqlConversionFailure
  | notNull (column : String)
  deriving DecidableEq

variable {F : Type} [F64 F]

/-- The direction that the reference declares, or else the one that the bundle
claims. -/
def anchorDirection (model : ScoringModel F) (moduleId metricKey : String)
    (declared : Direction) : Direction :=
  ((model.reference.get moduleId metricKey).map
    ReferencePoint.direction).getD declared

/-- What a nullable column of numbers holds. -/
def toReal? (x : F) : Option F :=
  if F64.isNan x then none else some x

def MetricRow.ofMetric (module : ModuleResult F) (metric : Metric F) :
    MetricRow F where
  module := module.module.id
  cycle := module.cycle
  metricKey := metric.key
  value := metric.value
  unit := metric.unit
  direction := directionKey <| anchorDirection
    (.current : ScoringModel F) module.module.id.asStr metric.key
    metric.direction
  cv := metric.summary.cv.bind toReal?
  samples := metric.summary.n

def CategoryRow.ofOutcome (category : CategoryOutcome F) : CategoryRow F where
  key := category.key.debug
  label := category.label
  score := category.score
  weight := category.weight
  modules := String.intercalate "," category.modules

namespace Bundle

/-- All metrics of the bundle beside the modules that measured them. -/
def measured (bundle : Bundle F) : List (ModuleResult F × Metric F) :=
  bundle.modules.flatMap fun module =>
    module.metrics.map fun metric => (module, metric)

/-- The statements of the transaction that fail, in their order. -/
def storageErrors (bundle : Bundle F) : List SqliteError :=
  (if bundle.run.durationMs < 2 ^ 63 then [] else [.toSqlConversionFailure]) ++
    ((bundle.measured.filter fun entry => F64.isNan entry.2.value).map
      fun _ => .notNull "metrics.value") ++
    bundle.scores.categories.flatMap fun category =>
      (if F64.isNan category.score then [.notNull "categories.score"]
        else []) ++
      if F64.isNan category.weight then [.notNull "categories.weight"] else []

/-- Every value of the bundle has a place in its column. -/
structure Storable (bundle : Bundle F) : Prop where
  durationMs : bundle.run.durationMs < 2 ^ 63
  value : ∀ entry ∈ bundle.measured, F64.isNan entry.2.value = false
  category : ∀ category ∈ bundle.scores.categories,
    F64.isNan category.score = false ∧ F64.isNan category.weight = false

theorem storageErrors_eq_nil_iff (bundle : Bundle F) :
    bundle.storageErrors = [] ↔ bundle.Storable := by
  have hvalue : ((bundle.measured.filter fun entry =>
        F64.isNan entry.2.value).map fun _ =>
          SqliteError.notNull "metrics.value") = [] ↔
      ∀ entry ∈ bundle.measured, F64.isNan entry.2.value = false := by
    rw [List.map_eq_nil_iff, List.filter_eq_nil_iff]
    simp only [Bool.not_eq_true]
  have hcategory : (bundle.scores.categories.flatMap fun category =>
        (if F64.isNan category.score then
            [SqliteError.notNull "categories.score"] else []) ++
          if F64.isNan category.weight then [.notNull "categories.weight"]
          else []) = [] ↔
      ∀ category ∈ bundle.scores.categories,
        F64.isNan category.score = false ∧
          F64.isNan category.weight = false := by
    rw [List.flatMap_eq_nil_iff]
    simp
  rw [storageErrors, List.append_eq_nil_iff, List.append_eq_nil_iff, hvalue,
    hcategory]
  constructor
  · rintro ⟨⟨hduration, hvalue⟩, hcategory⟩
    refine ⟨?_, hvalue, hcategory⟩
    by_contra h
    rw [if_neg h] at hduration
    exact List.cons_ne_nil _ _ hduration
  · rintro ⟨hduration, hvalue, hcategory⟩
    exact ⟨⟨if_pos hduration, hvalue⟩, hcategory⟩

variable [Chrono] [Rfc3339] [JsonText F] [Crypto]

/-- The row of a bundle read from a file with the given identity. -/
def toRow (bundle : Bundle F) (identity : ℤ × ℤ) : RunRow F where
  runId := bundle.run.runId
  profile := bundle.run.profile.asStr
  runState := bundle.run.state.debug
  resultState := resultStateKey bundle.verdict.state
  startedAt := Rfc3339.toRfc3339 bundle.run.startedAt
  finishedAt := Rfc3339.toRfc3339 bundle.run.finishedAt
  durationMs := bundle.run.durationMs
  totalScore := bundle.scores.total.bind toReal?
  totalIsStandard := bundle.scores.totalIsStandard
  scoringModel := bundle.scores.scoringModel
  uncalibrated := bundle.scores.uncalibrated
  agentVersion := bundle.metadata.agentVersion
  buildTarget := bundle.metadata.buildTarget
  buildProfile := bundle.metadata.buildProfile
  environmentDigest := bundle.run.environmentDigest
  bundleDigest := bundle.digest .redact
  modules := bundle.run.modules.map fun m => m.id.asStr ++ "@" ++ m.version
  stoppedBecause := bundle.run.stoppedBecause
  identity := identity
  metrics := .ofRows <| bundle.measured.map fun entry =>
    MetricRow.ofMetric entry.1 entry.2
  categories := .ofRows <|
    bundle.scores.categories.map CategoryRow.ofOutcome

end Bundle

namespace RunIndex

variable [Chrono] [Rfc3339] [JsonText F] [Crypto]

/-- Indexes one bundle in one transaction. -/
def recordWithSource (index : RunIndex F) (bundle : Bundle F)
    (source : Option (ℤ × ℤ)) : Except SqliteError (RunIndex F) :=
  match bundle.storageErrors with
  | [] => .ok (index.insertOrReplace (bundle.toRow (source.getD (0, 0))))
  | error :: _ => .error error

theorem recordWithSource_of_storable (index : RunIndex F) {bundle : Bundle F}
    (h : bundle.Storable) (source : Option (ℤ × ℤ)) :
    index.recordWithSource bundle source =
      .ok (index.insertOrReplace (bundle.toRow (source.getD (0, 0)))) := by
  rw [recordWithSource, (bundle.storageErrors_eq_nil_iff).mpr h]

theorem recordWithSource_eq_ok {index index' : RunIndex F} {bundle : Bundle F}
    {source : Option (ℤ × ℤ)}
    (h : index.recordWithSource bundle source = .ok index') :
    bundle.Storable ∧
      index' = index.insertOrReplace (bundle.toRow (source.getD (0, 0))) := by
  rw [recordWithSource] at h
  split at h
  · next hnil =>
      exact ⟨bundle.storageErrors_eq_nil_iff.mp hnil,
        (Except.ok.inj h).symm⟩
  · exact absurd h (by simp)

end RunIndex

namespace StandIns

def otherRunId : RunId where
  asStr := "run_00000000000000000000000000000001"
  valid := by decide

scoped instance : Rfc3339 where
  toRfc3339 := formatTimestamp
  parseFromRfc3339 := parseTimestamp

end StandIns

end Darcbench
