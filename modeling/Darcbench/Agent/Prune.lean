import Darcbench.Agent.Reconcile
import Darcbench.Support.Runs

/-!
# Retention

A prune removes the directories of runs that its policy selects, but for those
whose rows say that they are invalid.  It follows a pass over the disk, so what
a row says was true of some file that the directory held.
-/

namespace Darcbench

/-! ## Pruning -/

/-- Which runs a prune may remove. -/
structure RetentionPolicy where
  olderThanDays : Option ℕ
  keepLast : Option ℕ

/-- Whether the policy selects nothing. -/
def RetentionPolicy.isEmpty (policy : RetentionPolicy) : Bool :=
  policy.olderThanDays.isNone && policy.keepLast.isNone

/-- What a prune would do, or did. -/
structure PruneOutcome where
  removed : List RunId := []
  failed : List (RunId × String) := []
  retainedAsEvidence : List RunId := []
  bytesFreed : ℕ := 0

/-- A prune with the state of the clock and of the file system. -/
structure PruneRequest where
  policy : RetentionPolicy
  dryRun : Bool
  now : Timestamp
  /-- Why the directory of a run cannot be removed, if it cannot. -/
  removeError : RunId → Option String

/-- Everything a prune reads and writes. -/
structure Pruning (F : Type) where
  index : RunIndex F
  dir : RunsDir
  outcome : PruneOutcome

/-- Total size of the files of a directory. -/
def directoryBytes (dir : RunsDir) (runId : RunId) : ℕ :=
  match dir.find? runId.asStr with
  | none => 0
  | some entry =>
      ((entry.bundle.map fun file => file.bytes.length).getD 0) +
        entry.otherBytes

namespace Pruning

variable {F : Type}

def cutoff (request : PruneRequest) : Option Timestamp :=
  request.policy.olderThanDays.map fun days =>
    request.now - days * (24 * 60 * 60 * 10 ^ 9)

/-- Whether the policy selects the run at a position of the list. -/
def selects (request : PruneRequest) (run : IndexedRun F) (position : ℕ) :
    Bool :=
  ((cutoff request).any fun cutoff => run.finishedAt < cutoff) ||
    request.policy.keepLast.any fun keep => keep ≤ position

/-- What the prune does with one run.  A directory that is already gone counts
as removed. -/
def pruneOne (request : PruneRequest) (state : Pruning F)
    (entry : IndexedRun F × ℕ) : Pruning F :=
  let run := entry.1
  let outcome := state.outcome
  if !selects request run entry.2 then state
  else if run.resultState = .invalid then
    { state with
      outcome :=
        { outcome with
          retainedAsEvidence := outcome.retainedAsEvidence ++ [run.runId] } }
  else
    let removed :=
      { outcome with
        removed := outcome.removed ++ [run.runId]
        bytesFreed := outcome.bytesFreed + directoryBytes state.dir run.runId }
    if request.dryRun then { state with outcome := removed }
    else
      match (state.dir.find? run.runId.asStr).bind
          fun _ => request.removeError run.runId with
      | some error =>
          { state with
            outcome :=
              { outcome with
                failed := outcome.failed ++ [(run.runId, error)] } }
      | none =>
          { index := state.index.forget run.runId
            dir := state.dir.delete run.runId.asStr
            outcome := removed }

end Pruning

/-- Applies a retention policy to the runs, the newest first. -/
def RunIndex.prune {F : Type} [Rfc3339] (index : RunIndex F) (dir : RunsDir)
    (request : PruneRequest) : Pruning F :=
  if request.policy.isEmpty then ⟨index, dir, {}⟩
  else index.list.zipIdx.foldl (Pruning.pruneOne request) ⟨index, dir, {}⟩

namespace Pruning

variable {F : Type}

/-- Everything in one state is in another one. -/
structure Within (state other : Pruning F) : Prop where
  index : ∀ row ∈ state.index.rows, row ∈ other.index.rows
  dir : ∀ entry ∈ state.dir.rows, entry ∈ other.dir.rows

theorem Within.of_eq {state other : Pruning F}
    (hindex : state.index = other.index) (hdir : state.dir = other.dir) :
    state.Within other :=
  ⟨fun _ h => hindex ▸ h, fun _ h => hdir ▸ h⟩

/-- A prune removes rows and directories and adds none. -/
theorem within_pruneOne (request : PruneRequest) (state : Pruning F)
    (entry : IndexedRun F × ℕ) :
    (pruneOne request state entry).Within state := by
  rw [pruneOne]
  dsimp only
  split_ifs
  · exact .of_eq rfl rfl
  · exact .of_eq rfl rfl
  · exact .of_eq rfl rfl
  · split
    · exact .of_eq rfl rfl
    · exact ⟨fun _ h => (Table.mem_delete_iff.mp h).1,
        fun _ h => (Table.mem_delete_iff.mp h).1⟩

theorem within_foldl (request : PruneRequest)
    (entries : List (IndexedRun F × ℕ)) (state : Pruning F) :
    (entries.foldl (pruneOne request) state).Within state := by
  induction entries generalizing state with
  | nil => exact .of_eq rfl rfl
  | cons entry rest ih =>
      have hone := within_pruneOne request state entry
      have hrest := ih (pruneOne request state entry)
      exact ⟨fun row h => hone.index row (hrest.index row h),
        fun entry h => hone.dir entry (hrest.dir entry h)⟩

/-- A directory that a prune touches belongs to a run that is not invalid. -/
theorem dir_pruneOne (request : PruneRequest) (state : Pruning F)
    (entry : IndexedRun F × ℕ) (name : String) :
    (pruneOne request state entry).dir.find? name = state.dir.find? name ∨
      entry.1.runId.asStr = name ∧ entry.1.resultState ≠ .invalid := by
  rw [pruneOne]
  dsimp only
  split_ifs with hselects hinvalid hdry
  · exact .inl rfl
  · exact .inl rfl
  · exact .inl rfl
  · split
    · exact .inl rfl
    · by_cases hname : entry.1.runId.asStr = name
      · exact .inr ⟨hname, hinvalid⟩
      · exact .inl (Table.find?_delete_of_ne state.dir (Ne.symm hname))

theorem dir_foldl (request : PruneRequest) (entries : List (IndexedRun F × ℕ))
    (state : Pruning F) (name : String) :
    (entries.foldl (pruneOne request) state).dir.find? name =
        state.dir.find? name ∨
      ∃ entry ∈ entries, entry.1.runId.asStr = name ∧
        entry.1.resultState ≠ .invalid := by
  induction entries generalizing state with
  | nil => exact .inl rfl
  | cons entry rest ih =>
      rcases ih (pruneOne request state entry) with hkept | ⟨other, hmem, h⟩
      · rcases dir_pruneOne request state entry name with hsame | h
        · exact .inl (hkept.trans hsame)
        · exact .inr ⟨entry, List.mem_cons_self, h⟩
      · exact .inr ⟨other, List.mem_cons_of_mem _ hmem, h⟩

end Pruning

theorem RunIndex.within_prune {F : Type} [Rfc3339] (index : RunIndex F)
    (dir : RunsDir) (request : PruneRequest) :
    (index.prune dir request).Within ⟨index, dir, {}⟩ := by
  rw [prune]
  split
  · exact .of_eq rfl rfl
  · exact Pruning.within_foldl request _ _

/-- A directory that a prune removes is the one of a row that is not
invalid. -/
theorem RunIndex.dir_prune {F : Type} [Rfc3339] (index : RunIndex F)
    (dir : RunsDir) (request : PruneRequest) (runId : RunId) :
    (index.prune dir request).dir.find? runId.asStr =
        dir.find? runId.asStr ∨
      ∃ row, index.find? runId = some row ∧
        resultStateFromKey row.resultState ≠ .invalid := by
  rw [prune]
  split
  · exact .inl rfl
  · rcases Pruning.dir_foldl request index.list.zipIdx ⟨index, dir, {}⟩
        runId.asStr with h | ⟨entry, hentry, hname, hstate⟩
    · exact .inl h
    · obtain ⟨row, hrow, hrun⟩ := RunIndex.mem_list_iff.mp
        (List.fst_mem_of_mem_zipIdx hentry)
      rw [← hrun] at hname hstate
      obtain rfl : row.runId = runId := RunId.asStr_injective hname
      exact .inr ⟨row, Table.find?_of_mem hrow, hstate⟩

/-! ## Histories -/

/-- The index and the disk, with the runs whose evidence a prune removed. -/
structure Archive (F : Type) where
  index : RunIndex F
  dir : RunsDir
  lost : List RunId

namespace Archive

inductive Action (F : Type) [F64 F] where
  /-- Bundle files are written, replaced or removed. -/
  | change (dir : RunsDir)
  /-- The bundle of a run is written and recorded. -/
  | finish (bundle : Bundle F) (file : BundleFile) (otherBytes : ℕ)
  | reconcile
  /-- A pass over the disk, followed by a prune. -/
  | prune (request : PruneRequest)

section

variable {F : Type} [F64 F] [Chrono] [Rfc3339] [JsonText F] [FromSlice F]
  [Crypto]

/-- Whether the file of a run is evidence: an invalid bundle, or one that cannot
be read. -/
def isEvidence (F : Type) [F64 F] [JsonText F] [FromSlice F]
    (file : BundleFile) : Bool :=
  match (Bundle.fromSlice file.bytes : Option (Bundle F)) with
  | none => true
  | some bundle => bundle.verdict.state = .invalid

/-- The runs with evidence of which the directory is gone. -/
def lostEvidence (F : Type) [F64 F] [JsonText F] [FromSlice F]
    (before after : RunsDir) : List RunId :=
  before.onDisk.filter fun runId =>
    (before.bundleAt runId).any (isEvidence F) &&
      (after.find? runId.asStr).isNone

/-- A prune is refused when the index could not be brought up to date. -/
def step (s : Archive F) : Action F → Option (Archive F)
  | .change dir => some { s with dir := dir }
  | .finish bundle file otherBytes =>
      let entry := ⟨bundle.run.runId.asStr, some file, otherBytes⟩
      let recorded := s.index.recordWithSource bundle (some (fileIdentity file))
      some
        { s with
          index := recorded.toOption.getD s.index
          dir := s.dir.insertOrReplace entry }
  | .reconcile => some { s with index := (s.index.reconcile s.dir).1 }
  | .prune request =>
      match s.index.reconcile s.dir with
      | (index, .error _) => some { s with index := index }
      | (index, .ok _) =>
          let after := index.prune s.dir request
          some
            { index := after.index
              dir := after.dir
              lost := s.lost ++ lostEvidence F s.dir after.dir }

/-- Histories that start from nothing. -/
def system : TransitionSystem (Archive F) (Action F) where
  initial s := s.index = .empty ∧ s.dir = .empty ∧ s.lost = []
  step := step

theorem step_prune_of_ok {s : Archive F} {index' : RunIndex F}
    {outcome : ReconcileOutcome}
    (h : s.index.reconcile s.dir = (index', .ok outcome))
    (request : PruneRequest) :
    system.step s (.prune request) =
      some
        { index := (index'.prune s.dir request).index
          dir := (index'.prune s.dir request).dir
          lost := s.lost ++
            lostEvidence F s.dir (index'.prune s.dir request).dir } := by
  change step s (.prune request) = _
  rw [step, h]

theorem step_prune_of_error {s : Archive F} {index' : RunIndex F}
    {error : SqliteError}
    (h : s.index.reconcile s.dir = (index', .error error))
    (request : PruneRequest) :
    system.step s (.prune request) = some { s with index := index' } := by
  change step s (.prune request) = _
  rw [step, h]

/-- The files of the directories have the contents that go with their
identities. -/
def HasContents (contents : RunId → ℤ × ℤ → List UInt8) (dir : RunsDir) :
    Prop :=
  ∀ (runId : RunId) (file : BundleFile), dir.bundleAt runId = some file →
    file.bytes = contents runId (fileIdentity file)

/-- The identity of a file changes whenever its content does: `contents` tells
the one from the other.  A run that finishes writes its own bundle. -/
def Tracked (contents : RunId → ℤ × ℤ → List UInt8) (_ : Archive F) :
    Action F → Prop
  | .change dir => HasContents contents dir
  | .finish bundle file _ =>
      file.bytes = contents bundle.run.runId (fileIdentity file) ∧
        ∃ policy, file.bytes = bundle.persisted policy
  | .reconcile | .prune _ => True

/-- Every bundle that can be read names the run of its directory, and the row of
a directory whose bundle cannot be read says that the run is invalid. -/
structure Orderly (s : Archive F) : Prop where
  namesOwn : RunIndex.NamesOwn F s.dir
  unreadable : ∀ (runId : RunId) (file : BundleFile) (row : RunRow F),
    s.dir.bundleAt runId = some file →
      (Bundle.fromSlice file.bytes : Option (Bundle F)) = none →
        s.index.find? runId = some row →
          resultStateFromKey row.resultState = .invalid

/-- Passes over the disk find it orderly. -/
def Careful (contents : RunId → ℤ × ℤ → List UInt8) (s : Archive F)
    (action : Action F) : Prop :=
  Tracked contents s action ∧
    match action with
    | .change _ | .finish _ _ _ => True
    | .reconcile | .prune _ => s.Orderly

/-- A row tells the verdict of the file it was built from. -/
def Truthful (contents : RunId → ℤ × ℤ → List UInt8) (index : RunIndex F) :
    Prop :=
  ∀ row ∈ index.rows, ∀ bundle : Bundle F,
    Bundle.fromSlice (contents row.runId row.identity) = some bundle →
      resultStateFromKey row.resultState = bundle.verdict.state

structure Invariant (contents : RunId → ℤ × ℤ → List UInt8) (s : Archive F) :
    Prop where
  truthful : Truthful contents s.index
  hasContents : HasContents contents s.dir
  lost : s.lost = []

variable {contents : RunId → ℤ × ℤ → List UInt8}

theorem Truthful.insertOrReplace {index : RunIndex F}
    (h : Truthful contents index) {bundle : Bundle F} {identity : ℤ × ℤ}
    (hread : ∀ read : Bundle F,
      Bundle.fromSlice (contents bundle.run.runId identity) = some read →
        read.verdict.state = bundle.verdict.state) :
    Truthful contents (index.insertOrReplace (bundle.toRow identity)) := by
  intro row hrow read hcontents
  rcases Table.mem_insertOrReplace_iff.mp hrow with rfl | ⟨hmem, -⟩
  · rw [hread read hcontents]
    exact resultStateFromKey_resultStateKey bundle.verdict.state
  · exact h row hmem read hcontents

/-- A pass over well-named bundles keeps the rows truthful. -/
theorem Truthful.reconcile {index : RunIndex F} {dir : RunsDir}
    (h : Truthful contents index) (hdir : HasContents contents dir)
    (hnames : RunIndex.NamesOwn F dir) :
    Truthful contents (index.reconcile dir).1 := by
  have hrefreshed : Truthful contents
      (RunIndex.refreshAll dir dir.onDisk index {}).1 := by
    refine RunIndex.refreshAll_invariant ?_ h dir.onDisk {}
    intro index runId index' htruthful hvisit
    cases hvisit with
    | kept _ => exact htruthful
    | @recorded file bundle hfile _ hread _ =>
        refine htruthful.insertOrReplace fun read hcontents => ?_
        rw [hnames runId file bundle hfile hread,
          ← hdir runId file hfile, hread] at hcontents
        rw [Option.some.inj hcontents]
  rw [RunIndex.reconcile]
  split
  · next index' error hrun =>
      rw [hrun] at hrefreshed
      exact hrefreshed
  · next index' outcome hrun =>
      rw [hrun] at hrefreshed
      intro row hrow
      have hfind := Table.find?_of_mem hrow
      rw [RunIndex.find?_forgetAll] at hfind
      split at hfind
      · exact absurd hfind (by simp)
      · exact hrefreshed row (Table.find?_eq_some_iff.mp hfind).1

/-- After a pass that finds an orderly disk, a run with evidence has no row but
an invalid one. -/
theorem invalid_of_isEvidence {s : Archive F} (h : s.Invariant contents)
    (horderly : s.Orderly) {index' : RunIndex F} {outcome : ReconcileOutcome}
    (hrun : s.index.reconcile s.dir = (index', .ok outcome)) {runId : RunId}
    {file : BundleFile} (hfile : s.dir.bundleAt runId = some file)
    (hevidence : isEvidence F file = true) {row : RunRow F}
    (hrow : index'.find? runId = some row) :
    resultStateFromKey row.resultState = .invalid := by
  rw [RunIndex.find?_reconcile horderly.namesOwn hrun runId,
    if_neg (hfile ▸ Option.some_ne_none file)] at hrow
  cases hread : (Bundle.fromSlice file.bytes : Option (Bundle F)) with
  | none =>
      simp only [RunIndex.refreshedRow, hfile, hread, ite_self] at hrow
      exact horderly.unreadable runId file row hfile hread hrow
  | some bundle =>
      have hinvalid : bundle.verdict.state = .invalid := by
        simp only [isEvidence, hread] at hevidence
        exact of_decide_eq_true hevidence
      by_cases hcurrent : s.index.isCurrent runId file = true
      · obtain ⟨row', hrow', -, hidentity⟩ :=
          RunIndex.isCurrent_iff.mp hcurrent
        simp only [RunIndex.refreshedRow, hfile, if_pos hcurrent] at hrow
        obtain rfl := Option.some.inj (hrow'.symm.trans hrow)
        obtain ⟨hmem, rfl⟩ := Table.find?_eq_some_iff.mp hrow'
        rw [h.truthful row' hmem bundle ?_, hinvalid]
        rw [hidentity, ← h.hasContents row'.runId file hfile, hread]
      · simp only [RunIndex.refreshedRow, hfile, if_neg hcurrent, hread]
          at hrow
        rw [← Option.some.inj hrow]
        exact (resultStateFromKey_resultStateKey _).trans hinvalid

theorem lostEvidence_prune {s : Archive F} (h : s.Invariant contents)
    (horderly : s.Orderly) {index' : RunIndex F} {outcome : ReconcileOutcome}
    (hrun : s.index.reconcile s.dir = (index', .ok outcome))
    (request : PruneRequest) :
    lostEvidence F s.dir (index'.prune s.dir request).dir = [] := by
  rw [lostEvidence, List.filter_eq_nil_iff]
  intro runId hmem hlost
  obtain ⟨file, hfile⟩ := RunsDir.mem_onDisk_iff.mp hmem
  rw [hfile, Option.any_some, Bool.and_eq_true, Option.isNone_iff_eq_none]
    at hlost
  obtain ⟨hevidence, hgone⟩ := hlost
  rcases index'.dir_prune s.dir request runId with hkept | ⟨row, hrow, hstate⟩
  · rw [hgone] at hkept
    rw [RunsDir.bundleAt, ← hkept] at hfile
    exact absurd hfile (by simp)
  · exact hstate (invalid_of_isEvidence h horderly hrun hfile hevidence hrow)

omit [Chrono] [Rfc3339] [JsonText F] [FromSlice F] [Crypto] [F64 F] in
theorem HasContents.of_within {dir dir' : RunsDir}
    (h : HasContents contents dir) (hsub : ∀ entry ∈ dir'.rows,
      entry ∈ dir.rows) :
    HasContents contents dir' := by
  intro runId file hfile
  obtain ⟨entry, hentry, hbundle⟩ := Option.bind_eq_some_iff.mp hfile
  obtain ⟨hmem, hname⟩ := Table.find?_eq_some_iff.mp hentry
  refine h runId file (Option.bind_eq_some_iff.mpr ⟨entry, ?_, hbundle⟩)
  exact Table.find?_eq_some_iff.mpr ⟨hsub entry hmem, hname⟩

omit [Chrono] [Rfc3339] [JsonText F] [FromSlice F] [Crypto] [F64 F] in
theorem HasContents.insertOrReplace {dir : RunsDir}
    (h : HasContents contents dir) {runId : RunId} {file : BundleFile}
    (hfile : file.bytes = contents runId (fileIdentity file))
    (otherBytes : ℕ) :
    HasContents contents
      (dir.insertOrReplace ⟨runId.asStr, some file, otherBytes⟩) := by
  intro runId' file' hfile'
  by_cases hrun : runId' = runId
  · subst hrun
    have hself := Table.find?_insertOrReplace_self dir
      ⟨runId'.asStr, some file, otherBytes⟩
    rw [RunsDir.bundleAt, hself, Option.bind_some] at hfile'
    obtain rfl := Option.some.inj hfile'
    exact hfile
  · have hother : (dir.insertOrReplace
        ⟨runId.asStr, some file, otherBytes⟩).find? runId'.asStr =
          dir.find? runId'.asStr := by
      apply Table.find?_insertOrReplace_of_ne
      exact fun hname => hrun (RunId.asStr_injective hname)
    rw [RunsDir.bundleAt, hother] at hfile'
    exact h runId' file' hfile'

theorem Invariant.initial {s : Archive F} (h : system.initial s) :
    s.Invariant contents := by
  obtain ⟨hindex, hdir, hlost⟩ := h
  refine ⟨?_, ?_, hlost⟩
  · rw [hindex]
    intro row hrow
    exact absurd hrow List.not_mem_nil
  · rw [hdir]
    intro runId file hfile
    exact absurd hfile (by simp [RunsDir.bundleAt])

theorem Invariant.finish {s : Archive F} (h : s.Invariant contents)
    {bundle : Bundle F} {file : BundleFile} {policy : RedactionPolicy}
    (hcontents : file.bytes =
      contents bundle.run.runId (fileIdentity file))
    (hpersisted : file.bytes = bundle.persisted policy) :
    Truthful contents
      ((s.index.recordWithSource bundle
        (some (fileIdentity file))).toOption.getD s.index) := by
  cases hrecord : s.index.recordWithSource bundle
      (some (fileIdentity file)) with
  | error error => exact h.truthful
  | ok index' =>
      obtain ⟨-, rfl⟩ := RunIndex.recordWithSource_eq_ok hrecord
      refine h.truthful.insertOrReplace fun read hread => ?_
      rw [Option.getD_some, ← hcontents, hpersisted] at hread
      rw [Bundle.verdict_of_fromSlice_persisted hread]

theorem Invariant.step {s t : Archive F} {action : Action F}
    (h : s.Invariant contents) (hcareful : Careful contents s action)
    (ht : system.step s action = some t) :
    t.Invariant contents := by
  obtain ⟨htracked, horderly⟩ := hcareful
  cases action with
  | change dir =>
      obtain rfl := Option.some.inj ht
      exact ⟨h.truthful, htracked, h.lost⟩
  | finish bundle file otherBytes =>
      obtain ⟨hcontents, policy, hpersisted⟩ := htracked
      obtain rfl := Option.some.inj ht
      exact ⟨h.finish hcontents hpersisted,
        h.hasContents.insertOrReplace hcontents otherBytes, h.lost⟩
  | reconcile =>
      obtain rfl := Option.some.inj ht
      exact ⟨h.truthful.reconcile h.hasContents horderly.namesOwn,
        h.hasContents, h.lost⟩
  | prune request =>
      have htruthful :=
        h.truthful.reconcile h.hasContents horderly.namesOwn
      cases hrun : s.index.reconcile s.dir with
      | mk index' result =>
          rw [hrun] at htruthful
          cases result with
          | error error =>
              rw [step_prune_of_error hrun] at ht
              obtain rfl := Option.some.inj ht
              exact ⟨htruthful, h.hasContents, h.lost⟩
          | ok outcome =>
              rw [step_prune_of_ok hrun] at ht
              obtain rfl := Option.some.inj ht
              have hwithin := index'.within_prune s.dir request
              refine ⟨fun row hrow => htruthful row (hwithin.index row hrow),
                h.hasContents.of_within hwithin.dir, ?_⟩
              rw [lostEvidence_prune h horderly hrun request, h.lost]
              rfl

end

/-! ## An unreadable replacement -/

open scoped StandIns

def writtenFile : BundleFile where
  bytes := StandIns.unsigned.persisted .redact
  modified := 1

/-- The file is cut off. -/
def emptyFile : BundleFile where
  bytes := []
  modified := 2

def writtenContents (_ : RunId) (identity : ℤ × ℤ) : List UInt8 :=
  if identity = fileIdentity emptyFile then []
  else StandIns.unsigned.persisted .redact

def writtenRow : RunRow Float :=
  StandIns.unsigned.toRow (fileIdentity writtenFile)

/-- The archive once the run has finished. -/
def finished : Archive Float where
  index := Table.empty.insertOrReplace writtenRow
  dir := Table.empty.insertOrReplace
    ⟨StandIns.runId.asStr, some writtenFile, 0⟩
  lost := []

def emptiedDir : RunsDir :=
  Table.empty.insertOrReplace ⟨StandIns.runId.asStr, some emptyFile, 0⟩

def keepNone : PruneRequest where
  policy := ⟨none, some 0⟩
  dryRun := false
  now := 0
  removeError _ := none

theorem bundleAt_insertOrReplace {runId runId' : RunId}
    {file file' : BundleFile}
    (h : RunsDir.bundleAt (Table.empty.insertOrReplace
      ⟨runId.asStr, some file, 0⟩) runId' = some file') :
    runId' = runId ∧ file' = file := by
  obtain ⟨entry, hentry, hbundle⟩ := Option.bind_eq_some_iff.mp h
  obtain ⟨hmem, hname⟩ := Table.find?_eq_some_iff.mp hentry
  obtain rfl := List.mem_singleton.mp hmem
  exact ⟨RunId.asStr_injective hname.symm, (Option.some.inj hbundle).symm⟩

theorem storable_unsigned : StandIns.unsigned.Storable where
  durationMs := by decide
  value entry hentry := absurd hentry List.not_mem_nil
  category category hcategory := absurd hcategory List.not_mem_nil

theorem fileIdentity_writtenFile_ne :
    fileIdentity writtenFile ≠ fileIdentity emptyFile := by
  intro h
  exact absurd (congrArg Prod.snd h) (by decide)

theorem step_finish :
    system.step (⟨.empty, .empty, []⟩ : Archive Float)
      (.finish StandIns.unsigned writtenFile 0) = some finished := by
  change some _ = some _
  rw [RunIndex.recordWithSource_of_storable _ storable_unsigned]
  rfl

theorem careful_finished :
    system.Reaches (Careful writtenContents) finished := by
  have hstart : system.Reaches (Careful writtenContents)
      (⟨.empty, .empty, []⟩ : Archive Float) :=
    .initial ⟨rfl, rfl, rfl⟩
  refine hstart.step (a := .finish StandIns.unsigned writtenFile 0) ?_
    step_finish
  exact ⟨⟨(if_neg fileIdentity_writtenFile_ne).symm, .redact, rfl⟩, trivial⟩

theorem orderly_finished : finished.Orderly := by
  have hread : Bundle.fromSlice writtenFile.bytes =
      some (StandIns.unsigned.mapSensitive (Sensitive.mask .redact)) :=
    Bundle.fromSlice_persisted StandIns.representable_unsigned .redact
  constructor
  · intro runId file bundle hfile hbundle
    obtain ⟨rfl, rfl⟩ := bundleAt_insertOrReplace hfile
    obtain rfl := Option.some.inj (hread.symm.trans hbundle)
    rfl
  · intro runId file row hfile hnone
    obtain ⟨rfl, rfl⟩ := bundleAt_insertOrReplace hfile
    exact absurd (hread.symm.trans hnone) (by simp)

theorem bundleAt_emptiedDir :
    emptiedDir.bundleAt StandIns.runId = some emptyFile := by
  have hrow : emptiedDir.find? StandIns.runId.asStr =
      some ⟨StandIns.runId.asStr, some emptyFile, 0⟩ :=
    Table.find?_insertOrReplace_self .empty _
  rw [RunsDir.bundleAt, hrow]
  rfl

theorem reconcile_emptied :
    ∃ outcome, finished.index.reconcile emptiedDir =
      (finished.index, .ok outcome) := by
  have hsettled : ∀ runId, finished.index.Settled emptiedDir runId := by
    intro runId file hfile
    obtain ⟨-, rfl⟩ := bundleAt_insertOrReplace hfile
    exact .inr Bundle.fromSlice_nil
  have hrows : ∀ runId, finished.index.find? runId ≠ none →
      emptiedDir.bundleAt runId ≠ none := by
    intro runId hrow
    obtain ⟨row, hrow⟩ := Option.ne_none_iff_exists'.mp hrow
    obtain ⟨hmem, rfl⟩ := Table.find?_eq_some_iff.mp hrow
    obtain rfl := List.mem_singleton.mp hmem
    exact (bundleAt_emptiedDir.trans_ne (Option.some_ne_none emptyFile))
  obtain ⟨unreadable, hrun⟩ := RunIndex.reconcile_of_settled hsettled hrows
  exact ⟨_, hrun⟩

theorem prune_emptied :
    (finished.index.prune emptiedDir keepNone).dir =
      emptiedDir.delete StandIns.runId.asStr := by
  have hlist : finished.index.list = [rowToRun writtenRow] :=
    congrArg (List.map rowToRun) (List.mergeSort_singleton writtenRow)
  rw [RunIndex.prune, if_neg (by decide), hlist]
  rfl

theorem lost_emptied :
    lostEvidence Float emptiedDir
      (emptiedDir.delete StandIns.runId.asStr) ≠ [] := by
  refine List.ne_nil_of_mem (a := StandIns.runId)
    (List.mem_filter.mpr ⟨?_, ?_⟩)
  · exact RunsDir.mem_onDisk_iff.mpr ⟨emptyFile, bundleAt_emptiedDir⟩
  · have hevidence : isEvidence Float emptyFile = true := by
      rw [isEvidence, show emptyFile.bytes = [] from rfl, Bundle.fromSlice_nil]
    rw [bundleAt_emptiedDir, Table.find?_delete_self, Option.any_some,
      hevidence]
    rfl

end Archive

end Darcbench
