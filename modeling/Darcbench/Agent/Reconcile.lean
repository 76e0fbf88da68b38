import Darcbench.Agent.RunIndex
import Darcbench.Report.Reading
import Darcbench.Report.Tampering

/-!
# Rebuilding the index from the bundles on disk

One pass re-reads every bundle whose file is not the one its row was built from
and forgets the runs that have no bundle.  The pass scans directories by name
but records a bundle under the run that the bundle names.
-/

namespace Darcbench

/-! ## The runs directory -/

/-- A file `bundle.json`. -/
structure BundleFile where
  bytes : List UInt8
  /-- Modification time, in nanoseconds since the epoch. -/
  modified : ℤ

/-- Size and modification time of a file.  A time before the epoch reads as the
epoch, and the count of nanoseconds is cut to 64 bits. -/
def fileIdentity (file : BundleFile) : ℤ × ℤ :=
  (file.bytes.length,
    if file.modified < 0 then 0 else Int.bmod file.modified (2 ^ 64))

/-- A directory below the runs directory. -/
structure RunDirectory where
  name : String
  bundle : Option BundleFile
  /-- Total size of the other files in the directory. -/
  otherBytes : ℕ

/-- The directories in the order in which they are listed. -/
abbrev RunsDir : Type := Table RunDirectory.name

theorem RunId.asStr_of_fromStr {s : String} {id : RunId}
    (h : (RunId.fromStr s).toOption = some id) : id.asStr = s := by
  rw [RunId.fromStr] at h
  split at h
  · obtain rfl := Option.some.inj h
    rfl
  · exact absurd h (by simp [Except.toOption])

theorem RunId.asStr_injective : Function.Injective RunId.asStr := by
  rintro ⟨s, hs⟩ ⟨t, ht⟩ h
  cases h
  rfl

namespace RunsDir

def bundleAt (dir : RunsDir) (runId : RunId) : Option BundleFile :=
  (dir.find? runId.asStr).bind RunDirectory.bundle

/-- The directories that are named like a run and have a bundle. -/
def onDisk (dir : RunsDir) : List RunId :=
  dir.rows.filterMap fun entry =>
    match (RunId.fromStr entry.name).toOption, entry.bundle with
    | some runId, some _ => some runId
    | _, _ => none

theorem mem_onDisk_iff {dir : RunsDir} {runId : RunId} :
    runId ∈ dir.onDisk ↔ ∃ file, dir.bundleAt runId = some file := by
  rw [onDisk, List.mem_filterMap]
  constructor
  · rintro ⟨entry, hentry, hrun⟩
    split at hrun
    · next runId' file hname hfile =>
        obtain rfl := Option.some.inj hrun
        refine ⟨file, Option.bind_eq_some_iff.mpr ⟨entry, ?_, hfile⟩⟩
        rw [RunId.asStr_of_fromStr hname]
        exact Table.find?_of_mem hentry
    · exact absurd hrun (by simp)
  · rintro ⟨file, hfile⟩
    obtain ⟨entry, hentry, hbundle⟩ := Option.bind_eq_some_iff.mp hfile
    obtain ⟨hmem, hname⟩ := Table.find?_eq_some_iff.mp hentry
    refine ⟨entry, hmem, ?_⟩
    rw [hname, RunId.fromStr_asStr, hbundle]

end RunsDir

/-- What a pass changed. -/
structure ReconcileOutcome where
  indexed : List RunId := []
  forgotten : List RunId := []
  unreadable : List RunId := []

namespace RunIndex

/-! ## Stale rows and forgotten runs -/

section

variable {F : Type} {index : RunIndex F}

/-- Whether the row was built from the file that is there now.  A row without
an identity counts as stale. -/
def isCurrent (index : RunIndex F) (runId : RunId) (file : BundleFile) : Bool :=
  match index.find? runId with
  | none => false
  | some row =>
      if row.identity = (0, 0) then false
      else row.identity = fileIdentity file

def forget (index : RunIndex F) (runId : RunId) : RunIndex F :=
  index.delete runId

theorem isCurrent_iff {runId : RunId} {file : BundleFile} :
    index.isCurrent runId file = true ↔
      ∃ row, index.find? runId = some row ∧ row.identity ≠ (0, 0) ∧
        row.identity = fileIdentity file := by
  rw [isCurrent]
  cases index.find? runId with
  | none => simp
  | some row => simp

/-- Forgets the known runs without a bundle. -/
def forgetAll (dir : RunsDir) (onDisk : List RunId) : List RunId →
    RunIndex F → ReconcileOutcome → RunIndex F × ReconcileOutcome
  | [], index, outcome => (index, outcome)
  | runId :: rest, index, outcome =>
      if onDisk.contains runId then
        forgetAll dir onDisk rest index outcome
      else if (dir.bundleAt runId).isSome then
        forgetAll dir onDisk rest index outcome
      else
        forgetAll dir onDisk rest (index.forget runId)
          { outcome with forgotten := outcome.forgotten ++ [runId] }

/-- Nothing happens to the directories during a pass, so looking again finds
what the listing found. -/
theorem forgetAll_cons (dir : RunsDir) (first : RunId) (rest : List RunId)
    (index : RunIndex F) (outcome : ReconcileOutcome) :
    forgetAll dir dir.onDisk (first :: rest) index outcome =
      if dir.bundleAt first = none then
        forgetAll dir dir.onDisk rest (index.forget first)
          { outcome with forgotten := outcome.forgotten ++ [first] }
      else forgetAll dir dir.onDisk rest index outcome := by
  rw [forgetAll]
  cases hfile : dir.bundleAt first with
  | some file =>
      have hdisk : dir.onDisk.contains first = true :=
        List.contains_iff_mem.mpr (RunsDir.mem_onDisk_iff.mpr ⟨file, hfile⟩)
      rw [if_pos hdisk, if_neg (Option.some_ne_none file)]
  | none =>
      have hdisk : ¬ dir.onDisk.contains first = true := by
        rw [List.contains_iff_mem, RunsDir.mem_onDisk_iff]
        rintro ⟨file, hsome⟩
        exact absurd (hfile.symm.trans hsome) (by simp)
      rw [if_neg hdisk, if_neg (by simp), if_pos rfl]

/-- A run that is forgotten is known and has no bundle; the rows of all others
stay. -/
theorem find?_forgetAll (dir : RunsDir) (known : List RunId)
    (index : RunIndex F) (outcome : ReconcileOutcome) (runId : RunId) :
    (forgetAll dir dir.onDisk known index outcome).1.find? runId =
      if runId ∈ known ∧ dir.bundleAt runId = none then none
      else index.find? runId := by
  induction known generalizing index outcome with
  | nil =>
      rw [forgetAll, if_neg (fun h => List.not_mem_nil h.1)]
  | cons first rest ih =>
      rw [forgetAll_cons]
      by_cases hfirst : runId = first
      · subst hfirst
        by_cases hgone : dir.bundleAt runId = none
        · rw [if_pos hgone, ih, forget, Table.find?_delete_self, ite_self,
            if_pos ⟨List.mem_cons_self, hgone⟩]
        · rw [if_neg hgone, ih, if_neg (fun h => hgone h.2),
            if_neg (fun h => hgone h.2)]
      · have hmem : runId ∈ first :: rest ↔ runId ∈ rest := by
          rw [List.mem_cons, or_iff_right hfirst]
        simp only [hmem]
        split
        · rw [ih, forget, Table.find?_delete_of_ne index hfirst]
        · rw [ih]

theorem forgetAll_of_bundles {dir : RunsDir} {known : List RunId}
    (h : ∀ runId ∈ known, dir.bundleAt runId ≠ none) (index : RunIndex F)
    (outcome : ReconcileOutcome) :
    forgetAll dir dir.onDisk known index outcome = (index, outcome) := by
  induction known with
  | nil => rw [forgetAll]
  | cons first rest ih =>
      obtain ⟨hfirst, hrest⟩ := List.forall_mem_cons.mp h
      rw [forgetAll_cons, if_neg hfirst, ih hrest]

/-- The list names exactly the runs with a row. -/
theorem mem_known_iff [Rfc3339] {runId : RunId} :
    runId ∈ index.list.map IndexedRun.runId ↔
      index.find? runId ≠ none := by
  rw [List.mem_map, Option.ne_none_iff_exists']
  constructor
  · rintro ⟨run, hrun, rfl⟩
    obtain ⟨row, hrow, rfl⟩ := mem_list_iff.mp hrun
    exact ⟨row, Table.find?_of_mem hrow⟩
  · rintro ⟨row, hrow⟩
    obtain ⟨hmem, rfl⟩ := Table.find?_eq_some_iff.mp hrow
    exact ⟨rowToRun row, mem_list_iff.mpr ⟨row, hmem, rfl⟩, rfl⟩

end

/-! ## The pass -/

section

variable {F : Type} [F64 F]
variable [Chrono] [Rfc3339] [JsonText F] [FromSlice F] [Crypto]

/-- Reads every bundle that is not current.  A bundle that cannot be recorded
ends the pass. -/
def refreshAll (dir : RunsDir) : List RunId → RunIndex F → ReconcileOutcome →
    RunIndex F × Except SqliteError ReconcileOutcome
  | [], index, outcome => (index, .ok outcome)
  | runId :: rest, index, outcome =>
      match dir.bundleAt runId with
      | none =>
          refreshAll dir rest index
            { outcome with unreadable := outcome.unreadable ++ [runId] }
      | some file =>
          if index.isCurrent runId file then
            refreshAll dir rest index outcome
          else
            match Bundle.fromSlice file.bytes with
            | none =>
                refreshAll dir rest index
                  { outcome with unreadable := outcome.unreadable ++ [runId] }
            | some bundle =>
                match index.recordWithSource bundle
                    (some (fileIdentity file)) with
                | .error error => (index, .error error)
                | .ok index =>
                    refreshAll dir rest index
                      { outcome with indexed := outcome.indexed ++ [runId] }

/-- Rebuilds the index from the bundles on disk. -/
def reconcile (index : RunIndex F) (dir : RunsDir) :
    RunIndex F × Except SqliteError ReconcileOutcome :=
  match refreshAll dir dir.onDisk index {} with
  | (index, .error error) => (index, .error error)
  | (index, .ok outcome) =>
      let known := index.list.map IndexedRun.runId
      let (index, outcome) := forgetAll dir dir.onDisk known index outcome
      (index, .ok outcome)

/-! ## One pass over well-named bundles -/

section

variable {index : RunIndex F} {dir : RunsDir}

/-- Every bundle that can be read names the run of its directory. -/
def NamesOwn (F : Type) [F64 F] [JsonText F] [FromSlice F]
    (dir : RunsDir) : Prop :=
  ∀ (runId : RunId) (file : BundleFile) (bundle : Bundle F),
    dir.bundleAt runId = some file →
      Bundle.fromSlice file.bytes = some bundle → bundle.run.runId = runId

/-- Every bundle that can be read has room in its row. -/
def AllStorable (F : Type) [F64 F] [JsonText F] [FromSlice F]
    (dir : RunsDir) : Prop :=
  ∀ (runId : RunId) (file : BundleFile) (bundle : Bundle F),
    dir.bundleAt runId = some file →
      Bundle.fromSlice file.bytes = some bundle → bundle.Storable

/-- The row that a pass leaves for a run with a bundle. -/
def refreshedRow (index : RunIndex F) (dir : RunsDir) (runId : RunId) :
    Option (RunRow F) :=
  match dir.bundleAt runId with
  | none => index.find? runId
  | some file =>
      if index.isCurrent runId file then index.find? runId
      else
        match Bundle.fromSlice file.bytes with
        | none => index.find? runId
        | some bundle => some (bundle.toRow (fileIdentity file))

omit [Rfc3339] [Crypto] in
theorem fileIdentity_ne_zero {file : BundleFile} {bundle : Bundle F}
    (h : Bundle.fromSlice file.bytes = some bundle) :
    fileIdentity file ≠ (0, 0) := by
  intro hzero
  have hlength := congrArg Prod.fst hzero
  rw [fileIdentity] at hlength
  have hnil := List.length_eq_zero_iff.mp (Int.ofNat_eq_zero.mp hlength)
  exact Bundle.ne_nil_of_fromSlice h hnil

/-- A row that was just built from a file is current. -/
theorem isCurrent_of_toRow {runId : RunId} {file : BundleFile}
    {bundle : Bundle F} (hread : Bundle.fromSlice file.bytes = some bundle)
    (h : index.find? runId = some (bundle.toRow (fileIdentity file))) :
    index.isCurrent runId file = true := by
  rw [isCurrent, h]
  have hne : (bundle.toRow (fileIdentity file)).identity ≠ (0, 0) :=
    fileIdentity_ne_zero hread
  exact (if_neg hne).trans (decide_eq_true rfl)

theorem refreshedRow_congr {other : RunIndex F} {runId : RunId}
    (h : other.find? runId = index.find? runId) :
    other.refreshedRow dir runId = index.refreshedRow dir runId := by
  have hcurrent : other.isCurrent runId = index.isCurrent runId := by
    funext file
    rw [isCurrent, isCurrent, h]
  rw [refreshedRow, refreshedRow, h, hcurrent]

/-- What the visit of one directory does to the index. -/
inductive Visit (dir : RunsDir) (index : RunIndex F) (runId : RunId) :
    RunIndex F → Prop
  | kept (h : index.refreshedRow dir runId = index.find? runId) :
      Visit dir index runId index
  | recorded {file : BundleFile} {bundle : Bundle F}
      (hfile : dir.bundleAt runId = some file)
      (hstale : ¬ index.isCurrent runId file = true)
      (hread : Bundle.fromSlice file.bytes = some bundle)
      (hstorable : bundle.Storable) :
      Visit dir index runId
        (index.insertOrReplace (bundle.toRow (fileIdentity file)))

/-- The pass goes on after a visit, or it ends with the error of a bundle that
has no room in its row. -/
theorem refreshAll_cons (dir : RunsDir) (first : RunId) (rest : List RunId)
    (index : RunIndex F) (outcome : ReconcileOutcome) :
    (∃ index' outcome', Visit dir index first index' ∧
        refreshAll dir (first :: rest) index outcome =
          refreshAll dir rest index' outcome') ∨
      ∃ error, refreshAll dir (first :: rest) index outcome =
          (index, .error error) ∧ ¬ AllStorable F dir := by
  rw [refreshAll]
  cases hfile : dir.bundleAt first with
  | none =>
      exact .inl ⟨index, _, .kept (by rw [refreshedRow, hfile]), rfl⟩
  | some file =>
      by_cases hcurrent : index.isCurrent first file = true
      · simp only [if_pos hcurrent]
        refine .inl ⟨index, _, .kept ?_, rfl⟩
        simp only [refreshedRow, hfile, if_pos hcurrent]
      · cases hread : (Bundle.fromSlice file.bytes : Option (Bundle F)) with
        | none =>
            simp only [if_neg hcurrent, hread]
            refine .inl ⟨index, _, .kept ?_, rfl⟩
            simp only [refreshedRow, hfile, if_neg hcurrent, hread]
        | some bundle =>
            simp only [if_neg hcurrent, hread]
            cases hrecord : index.recordWithSource bundle
                (some (fileIdentity file)) with
            | ok index' =>
                obtain ⟨hstorable, rfl⟩ := recordWithSource_eq_ok hrecord
                exact .inl ⟨_, _, .recorded hfile hcurrent hread hstorable,
                  rfl⟩
            | error error =>
                refine .inr ⟨error, rfl, fun hall => ?_⟩
                rw [recordWithSource_of_storable index
                  (hall first file bundle hfile hread)] at hrecord
                exact absurd hrecord (by simp)

/-- A visit keeps all other rows, and visiting again finds nothing to do. -/
theorem Visit.refreshedRow_eq (hnames : NamesOwn F dir) {first : RunId}
    {index' : RunIndex F} (h : Visit dir index first index')
    (runId : RunId) :
    index'.refreshedRow dir runId = index.refreshedRow dir runId ∧
      index'.find? runId =
        if runId = first then index.refreshedRow dir runId
        else index.find? runId := by
  cases h with
  | kept hkept =>
      refine ⟨rfl, ?_⟩
      split
      · next hfirst => rw [hfirst, hkept]
      · rfl
  | @recorded file bundle hfile hstale hread hstorable =>
      let row := bundle.toRow (fileIdentity file)
      have hname : row.runId = first := hnames first file bundle hfile hread
      by_cases hfirst : runId = first
      · subst hfirst
        have hself : (index.insertOrReplace row).find? runId = some row :=
          hname ▸ Table.find?_insertOrReplace_self index row
        have hcurrent : isCurrent (index.insertOrReplace row) runId file =
            true :=
          isCurrent_of_toRow hread hself
        have hfresh : index.refreshedRow dir runId = some row := by
          simp only [refreshedRow, hfile, if_neg hstale, hread, row]
        rw [if_pos rfl, hfresh]
        refine ⟨?_, hself⟩
        simp only [refreshedRow, hfile]
        exact (if_pos hcurrent).trans hself
      · have hother : (index.insertOrReplace row).find? runId =
            index.find? runId := by
          apply Table.find?_insertOrReplace_of_ne index
          rwa [hname]
        rw [if_neg hfirst]
        exact ⟨refreshedRow_congr hother, hother⟩

theorem find?_refreshAll (hnames : NamesOwn F dir) {runIds : List RunId}
    {index index' : RunIndex F} {outcome outcome' : ReconcileOutcome}
    (h : refreshAll dir runIds index outcome = (index', .ok outcome'))
    (runId : RunId) :
    index'.find? runId =
      if runId ∈ runIds then index.refreshedRow dir runId
      else index.find? runId := by
  induction runIds generalizing index outcome with
  | nil =>
      rw [refreshAll, Prod.mk.injEq] at h
      rw [if_neg List.not_mem_nil, h.1]
  | cons first rest ih =>
      rcases refreshAll_cons dir first rest index outcome with
        ⟨visited, outcome'', hvisit, hrun⟩ | ⟨error, hrun, -⟩
      · obtain ⟨hrefreshed, hfind⟩ := hvisit.refreshedRow_eq hnames runId
        rw [ih (hrun.symm.trans h), hrefreshed, hfind]
        by_cases hfirst : runId = first
        · rw [if_pos hfirst, ite_self, if_pos (hfirst ▸ List.mem_cons_self)]
        · simp only [List.mem_cons, hfirst, false_or, if_false]
      · rw [hrun] at h
        exact absurd h (by simp)

theorem refreshAll_eq_ok (hstorable : AllStorable F dir)
    (runIds : List RunId) (index : RunIndex F) (outcome : ReconcileOutcome) :
    ∃ index' outcome',
      refreshAll dir runIds index outcome = (index', .ok outcome') := by
  induction runIds generalizing index outcome with
  | nil => exact ⟨index, outcome, rfl⟩
  | cons first rest ih =>
      rcases refreshAll_cons dir first rest index outcome with
        ⟨visited, outcome', -, hrun⟩ | ⟨error, -, hnot⟩
      · rw [hrun]
        exact ih visited outcome'
      · exact absurd hstorable hnot

/-- What every visit preserves holds after the pass, however it ends. -/
theorem refreshAll_invariant {holds : RunIndex F → Prop}
    (hstep : ∀ index runId index', holds index →
      Visit dir index runId index' → holds index')
    {index : RunIndex F} (h : holds index) (runIds : List RunId)
    (outcome : ReconcileOutcome) :
    holds (refreshAll dir runIds index outcome).1 := by
  induction runIds generalizing index outcome with
  | nil => exact h
  | cons first rest ih =>
      rcases refreshAll_cons dir first rest index outcome with
        ⟨visited, outcome', hvisit, hrun⟩ | ⟨error, hrun, -⟩
      · rw [hrun]
        exact ih (hstep index first visited h hvisit) outcome'
      · rw [hrun]
        exact h

/-- Over well-named bundles a pass that ends without an error leaves every run
with a bundle the refreshed row, and no row for any other run. -/
theorem find?_reconcile (hnames : NamesOwn F dir) {index index' : RunIndex F}
    {outcome : ReconcileOutcome}
    (h : index.reconcile dir = (index', .ok outcome)) (runId : RunId) :
    index'.find? runId =
      if dir.bundleAt runId = none then none
      else index.refreshedRow dir runId := by
  rw [reconcile] at h
  split at h
  · exact absurd h (by simp)
  · next refreshed outcome' hrun =>
      have hrows := find?_refreshAll hnames hrun runId
      simp only [Prod.mk.injEq] at h
      rw [← h.1, find?_forgetAll]
      by_cases hgone : dir.bundleAt runId = none
      · rw [if_pos hgone]
        by_cases hrow : refreshed.find? runId = none
        · rw [hrow, ite_self]
        · rw [if_pos ⟨mem_known_iff.mpr hrow, hgone⟩]
      · obtain ⟨file, hfile⟩ := Option.ne_none_iff_exists'.mp hgone
        rw [if_neg (fun h => hgone h.2), if_neg hgone, hrows,
          if_pos (RunsDir.mem_onDisk_iff.mpr ⟨file, hfile⟩)]

theorem reconcile_eq_ok (hstorable : AllStorable F dir) (index : RunIndex F) :
    ∃ index' outcome, index.reconcile dir = (index', .ok outcome) := by
  obtain ⟨index', outcome, hrun⟩ :=
    refreshAll_eq_ok hstorable dir.onDisk index {}
  exact ⟨_, _, by rw [reconcile, hrun]⟩

/-- Nothing is left to do for a run. -/
def Settled (index : RunIndex F) (dir : RunsDir) (runId : RunId) : Prop :=
  ∀ file, dir.bundleAt runId = some file →
    index.isCurrent runId file = true ∨
      (Bundle.fromSlice file.bytes : Option (Bundle F)) = none

theorem refreshAll_of_settled {runIds : List RunId}
    (h : ∀ runId ∈ runIds, index.Settled dir runId)
    (outcome : ReconcileOutcome) :
    ∃ unreadable, refreshAll dir runIds index outcome =
      (index, .ok { outcome with unreadable := unreadable }) := by
  induction runIds generalizing outcome with
  | nil => exact ⟨outcome.unreadable, by rw [refreshAll]⟩
  | cons first rest ih =>
      obtain ⟨hfirst, hrest⟩ := List.forall_mem_cons.mp h
      rw [refreshAll]
      cases hfile : dir.bundleAt first with
      | none => exact ih hrest _
      | some file =>
          by_cases hcurrent : index.isCurrent first file = true
          · simp only [if_pos hcurrent]
            exact ih hrest _
          · have hread := (hfirst file hfile).resolve_left hcurrent
            simp only [if_neg hcurrent, hread]
            exact ih hrest _

theorem reconcile_of_settled (h : ∀ runId, index.Settled dir runId)
    (hrows : ∀ runId, index.find? runId ≠ none → dir.bundleAt runId ≠ none) :
    ∃ unreadable, index.reconcile dir =
      (index, .ok { unreadable := unreadable }) := by
  obtain ⟨unreadable, hrun⟩ :=
    refreshAll_of_settled (fun runId _ => h runId) {}
  refine ⟨unreadable, ?_⟩
  rw [reconcile, hrun]
  simp only
  rw [forgetAll_of_bundles fun runId hknown =>
    hrows runId (mem_known_iff.mp hknown)]

/-! ## The index as a cache -/

/-- No row stands for a bundle that cannot be read. -/
def OnlyReadable (index : RunIndex F) (dir : RunsDir) : Prop :=
  ∀ (runId : RunId) (file : BundleFile), dir.bundleAt runId = some file →
    (Bundle.fromSlice file.bytes : Option (Bundle F)) = none →
      index.find? runId = none

/-- After a pass the index is a cache of the bundles on disk. -/
structure CachesAfter (index : RunIndex F) (dir : RunsDir) : Prop where
  /-- A run whose bundle can be read has the row that recording the bundle
  gives. -/
  row : ∀ (runId : RunId) (file : BundleFile) (bundle : Bundle F),
    dir.bundleAt runId = some file →
      Bundle.fromSlice file.bytes = some bundle →
        ∃ row, recordWithSource .empty bundle (some (fileIdentity file)) =
            .ok (Table.empty.insertOrReplace row) ∧
          (index.reconcile dir).1.find? runId = some row
  bundle : ∀ row ∈ (index.reconcile dir).1.rows,
    dir.bundleAt row.runId ≠ none
  /-- Another pass has nothing to do. -/
  again : ∃ outcome, (index.reconcile dir).1.reconcile dir =
      ((index.reconcile dir).1, .ok outcome) ∧
    outcome.indexed = [] ∧ outcome.forgotten = []

/-- Every bundle names the run of its directory and has room in its row, and a
row with the identity of its file is the row of that file. -/
structure Cacheable (index : RunIndex F) (dir : RunsDir) : Prop where
  namesOwn : NamesOwn F dir
  allStorable : AllStorable F dir
  current : ∀ (runId : RunId) (file : BundleFile) (bundle : Bundle F)
    (row : RunRow F), dir.bundleAt runId = some file →
      Bundle.fromSlice file.bytes = some bundle →
        index.find? runId = some row → row.identity = fileIdentity file →
          row = bundle.toRow (fileIdentity file)

/-- A cache holds the row that the pass builds from the bundle. -/
theorem CachesAfter.find? (h : index.CachesAfter dir) {runId : RunId}
    {file : BundleFile} {bundle : Bundle F}
    (hfile : dir.bundleAt runId = some file)
    (hread : Bundle.fromSlice file.bytes = some bundle) :
    bundle.Storable ∧ (index.reconcile dir).1.find? runId =
      some (bundle.toRow (fileIdentity file)) := by
  obtain ⟨row, hrecord, hrow⟩ := h.row runId file bundle hfile hread
  obtain ⟨hstorable, htable⟩ := recordWithSource_eq_ok hrecord
  have hrows := congrArg Table.rows htable
  obtain rfl : row = bundle.toRow (fileIdentity file) :=
    (List.cons.inj hrows).1
  exact ⟨hstorable, hrow⟩

theorem CachesAfter.namesOwn (h : index.CachesAfter dir) :
    NamesOwn F dir := by
  intro runId file bundle hfile hread
  obtain ⟨-, hrow⟩ := h.find? hfile hread
  have hkey : (bundle.toRow (fileIdentity file)).runId = runId :=
    Table.key_of_find? hrow
  exact hkey

theorem CachesAfter.allStorable (h : index.CachesAfter dir) :
    AllStorable F dir := fun _ _ _ hfile hread => (h.find? hfile hread).1

theorem CachesAfter.cacheable (h : index.CachesAfter dir) :
    index.Cacheable dir := by
  refine ⟨h.namesOwn, h.allStorable, ?_⟩
  intro runId file bundle row hfile hread hrow hidentity
  obtain ⟨index', outcome, hrun⟩ := reconcile_eq_ok h.allStorable index
  have hrows := find?_reconcile h.namesOwn hrun
  obtain ⟨-, hafter⟩ := h.find? hfile hread
  have hcurrent : index.isCurrent runId file = true :=
    isCurrent_iff.mpr ⟨row, hrow, hidentity ▸ fileIdentity_ne_zero hread,
      hidentity⟩
  rw [hrun, hrows runId, hfile, if_neg (Option.some_ne_none file)] at hafter
  simp only [refreshedRow, hfile, if_pos hcurrent] at hafter
  exact Option.some.inj (hrow.symm.trans hafter)

theorem Cacheable.refreshedRow_eq (h : index.Cacheable dir) {runId : RunId}
    {file : BundleFile} {bundle : Bundle F}
    (hfile : dir.bundleAt runId = some file)
    (hread : Bundle.fromSlice file.bytes = some bundle) :
    index.refreshedRow dir runId =
      some (bundle.toRow (fileIdentity file)) := by
  by_cases hcurrent : index.isCurrent runId file = true
  · obtain ⟨row, hrow, -, hidentity⟩ := isCurrent_iff.mp hcurrent
    simp only [refreshedRow, hfile, if_pos hcurrent]
    rw [hrow, h.current runId file bundle row hfile hread hrow hidentity]
  · simp only [refreshedRow, hfile, if_neg hcurrent, hread]

theorem Cacheable.cachesAfter (h : index.Cacheable dir) :
    index.CachesAfter dir := by
  obtain ⟨index', outcome, hrun⟩ := reconcile_eq_ok h.allStorable index
  have hrows := find?_reconcile h.namesOwn hrun
  have hfresh : ∀ {runId : RunId} {file : BundleFile} {bundle : Bundle F},
      dir.bundleAt runId = some file →
      Bundle.fromSlice file.bytes = some bundle →
      index'.find? runId = some (bundle.toRow (fileIdentity file)) := by
    intro runId file bundle hfile hread
    rw [hrows runId, if_neg (hfile ▸ Option.some_ne_none file),
      h.refreshedRow_eq hfile hread]
  have hbundle : ∀ runId, index'.find? runId ≠ none →
      dir.bundleAt runId ≠ none := by
    intro runId hrow hgone
    exact hrow (by rw [hrows runId, if_pos hgone])
  refine ⟨?_, ?_, ?_⟩
  · intro runId file bundle hfile hread
    have hstorable := h.allStorable runId file bundle hfile hread
    rw [hrun]
    exact ⟨_, recordWithSource_of_storable .empty hstorable _,
      hfresh hfile hread⟩
  · rw [hrun]
    intro row hrow
    refine hbundle row.runId ?_
    rw [Table.find?_of_mem hrow]
    exact Option.some_ne_none row
  · have hsettled : ∀ runId, index'.Settled dir runId := by
      intro runId file hfile
      cases hread : (Bundle.fromSlice file.bytes : Option (Bundle F)) with
      | none => exact .inr rfl
      | some bundle =>
          exact .inl (isCurrent_of_toRow hread (hfresh hfile hread))
    rw [hrun]
    obtain ⟨unreadable, hagain⟩ := reconcile_of_settled hsettled hbundle
    exact ⟨_, hagain, rfl, rfl⟩

theorem cachesAfter_iff : index.CachesAfter dir ↔ index.Cacheable dir :=
  ⟨CachesAfter.cacheable, Cacheable.cachesAfter⟩

/-- A pass neither adds nor removes a row of a bundle that cannot be read. -/
theorem onlyReadable_reconcile_iff (h : NamesOwn F dir)
    (hstorable : AllStorable F dir) :
    OnlyReadable (index.reconcile dir).1 dir ↔ index.OnlyReadable dir := by
  obtain ⟨index', outcome, hrun⟩ := reconcile_eq_ok hstorable index
  have hrows := find?_reconcile h hrun
  have hsame : ∀ {runId : RunId} {file : BundleFile},
      dir.bundleAt runId = some file →
      (Bundle.fromSlice file.bytes : Option (Bundle F)) = none →
      index'.find? runId = index.find? runId := by
    intro runId file hfile hread
    rw [hrows runId, if_neg (hfile ▸ Option.some_ne_none file)]
    simp only [refreshedRow, hfile, hread, ite_self]
  rw [hrun]
  constructor
  · intro hafter runId file hfile hread
    rw [← hsame hfile hread]
    exact hafter runId file hfile hread
  · intro hbefore runId file hfile hread
    rw [hsame hfile hread]
    exact hbefore runId file hfile hread

/-- A pass makes the index a cache of the disk for exactly the well-named
directories whose current rows are true; and it leaves no row beside those of
the readable bundles exactly if, moreover, there was none. -/
theorem reconcile_caches_iff (index : RunIndex F) (dir : RunsDir) :
    (index.CachesAfter dir ↔ index.Cacheable dir) ∧
      (index.CachesAfter dir ∧ OnlyReadable (index.reconcile dir).1 dir ↔
        index.Cacheable dir ∧ index.OnlyReadable dir) := by
  refine ⟨cachesAfter_iff, ?_⟩
  rw [cachesAfter_iff]
  exact and_congr_right fun h =>
    onlyReadable_reconcile_iff h.namesOwn h.allStorable

end

end

/-! ## A bundle in the directory of another run -/

open scoped StandIns

def misfiledBundle : BundleFile where
  bytes := StandIns.unsigned.persisted .redact
  modified := 1

def misfiled : RunsDir :=
  .ofRows
    [{ name := StandIns.otherRunId.asStr
       bundle := some misfiledBundle
       otherBytes := 0 }]

theorem bundleAt_misfiled :
    misfiled.bundleAt StandIns.otherRunId = some misfiledBundle := by
  have hrow : misfiled.find? StandIns.otherRunId.asStr =
      some ⟨StandIns.otherRunId.asStr, some misfiledBundle, 0⟩ :=
    Table.find?_insertOrReplace_self .empty _
  rw [RunsDir.bundleAt, hrow]
  rfl

theorem not_cachesAfter_misfiled :
    ¬ CachesAfter (F := Float) .empty misfiled := by
  intro h
  have hname := h.namesOwn StandIns.otherRunId misfiledBundle _
    bundleAt_misfiled
    (Bundle.fromSlice_persisted StandIns.representable_unsigned .redact)
  have hne : StandIns.runId ≠ StandIns.otherRunId := by decide
  exact hne hname

end RunIndex

end Darcbench
