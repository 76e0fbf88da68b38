import Darcbench.Agent.Prune
import Darcbench.Support.TimeText

/-!
# What a dry run of a prune says

A prune without a dry run does what the dry run has reported, as long as no
directory resists.  The window of a prune is cut from a list that is ordered by
the texts of the finish times, which are in the order of the times.
-/

namespace Darcbench

/-- The texts that the date library writes, and reads back. -/
class LawfulRfc3339 [Rfc3339] : Prop where
  toRfc3339_eq : ∀ t, InYears t → Rfc3339.toRfc3339 t = timeText t
  parse_toRfc3339 : ∀ t, InYears t →
    Rfc3339.parseFromRfc3339 (Rfc3339.toRfc3339 t) = some t

namespace Pruning

variable {F : Type}

/-! ## What a prune plans -/

/-- The run is selected and may be removed. -/
def removes (request : PruneRequest) (entry : IndexedRun F × ℕ) : Bool :=
  selects request entry.1 entry.2 && entry.1.resultState ≠ .invalid

/-- The run is selected and kept as evidence. -/
def retains (request : PruneRequest) (entry : IndexedRun F × ℕ) : Bool :=
  selects request entry.1 entry.2 && entry.1.resultState = .invalid

/-- The runs that are to be removed. -/
def doomed (request : PruneRequest) (entries : List (IndexedRun F × ℕ)) :
    List RunId :=
  (entries.filter (removes request)).map fun entry => entry.1.runId

/-- What a prune reports if nothing fails. -/
def plan (request : PruneRequest) (dir : RunsDir)
    (entries : List (IndexedRun F × ℕ)) : PruneOutcome where
  removed := doomed request entries
  failed := []
  retainedAsEvidence :=
    (entries.filter (retains request)).map fun entry => entry.1.runId
  bytesFreed := ((doomed request entries).map (directoryBytes dir)).sum

theorem doomed_concat (request : PruneRequest)
    (entries : List (IndexedRun F × ℕ)) (entry : IndexedRun F × ℕ) :
    doomed request (entries ++ [entry]) = doomed request entries ++
      if removes request entry then [entry.1.runId] else [] := by
  rw [doomed, List.filter_append, List.map_append, ← doomed]
  congr 1
  cases h : removes request entry <;> simp [h]

/-- The report grows by one run. -/
theorem plan_concat (request : PruneRequest) (dir : RunsDir)
    (entries : List (IndexedRun F × ℕ)) (entry : IndexedRun F × ℕ) :
    plan request dir (entries ++ [entry]) =
      { removed := (plan request dir entries).removed ++
          if removes request entry then [entry.1.runId] else []
        failed := []
        retainedAsEvidence := (plan request dir entries).retainedAsEvidence ++
          if retains request entry then [entry.1.runId] else []
        bytesFreed := (plan request dir entries).bytesFreed +
          if removes request entry then directoryBytes dir entry.1.runId
          else 0 } := by
  rw [plan, doomed_concat, List.filter_append, List.map_append,
    List.map_append, List.sum_append]
  congr 1
  · congr 1
    cases h : retains request entry <;> simp [h]
  · congr 1
    cases removes request entry <;> simp

/-- The plan depends on what is selected. -/
theorem plan_congr {request request' : PruneRequest}
    {entries : List (IndexedRun F × ℕ)}
    (h : ∀ entry ∈ entries, selects request entry.1 entry.2 =
      selects request' entry.1 entry.2) (dir : RunsDir) :
    plan request dir entries = plan request' dir entries := by
  have hremoves : entries.filter (removes request) =
      entries.filter (removes request') :=
    List.filter_congr fun entry hentry => by
      rw [removes, removes, h entry hentry]
  have hretains : entries.filter (retains request) =
      entries.filter (retains request') :=
    List.filter_congr fun entry hentry => by
      rw [retains, retains, h entry hentry]
  rw [plan, plan, doomed, doomed, hremoves, hretains]

/-- A dry run reports the plan and touches nothing. -/
theorem foldl_of_dryRun {request : PruneRequest}
    (h : request.dryRun = true) (index : RunIndex F) (dir : RunsDir)
    (entries : List (IndexedRun F × ℕ)) :
    entries.foldl (pruneOne request) ⟨index, dir, {}⟩ =
      ⟨index, dir, plan request dir entries⟩ := by
  induction entries using List.reverseRecOn with
  | nil => rfl
  | append_singleton entries entry ih =>
      rw [List.foldl_append, ih, plan_concat]
      simp only [List.foldl_cons, List.foldl_nil, pruneOne, h, if_true]
      by_cases hselects : selects request entry.1 entry.2 = true
      · by_cases hinvalid : entry.1.resultState = .invalid
        · simp [removes, retains, hselects, hinvalid, plan]
        · simp [removes, retains, hselects, hinvalid, plan]
      · simp [removes, retains, hselects, plan]

/-- What has failed stays reported. -/
theorem failed_pruneOne (request : PruneRequest) (state : Pruning F)
    (entry : IndexedRun F × ℕ) :
    state.outcome.failed <+: (pruneOne request state entry).outcome.failed := by
  rw [pruneOne]
  dsimp only
  split_ifs
  · exact List.prefix_rfl
  · exact List.prefix_rfl
  · exact List.prefix_rfl
  · split
    · exact List.prefix_append _ _
    · exact List.prefix_rfl

/-- A run is reported as removed only if it is planned. -/
theorem removed_pruneOne (request : PruneRequest) (state : Pruning F)
    (entry : IndexedRun F × ℕ) :
    (pruneOne request state entry).outcome.removed = state.outcome.removed ∨
      removes request entry = true ∧
        (pruneOne request state entry).outcome.removed =
          state.outcome.removed ++ [entry.1.runId] := by
  rw [pruneOne]
  dsimp only
  split_ifs with hselects hinvalid
  · exact .inl rfl
  · exact .inl rfl
  · exact .inr ⟨by simp_all [removes], rfl⟩
  · split
    · exact .inl rfl
    · exact .inr ⟨by simp_all [removes], rfl⟩

theorem removed_subset_doomed (request : PruneRequest) (index : RunIndex F)
    (dir : RunsDir) (entries : List (IndexedRun F × ℕ)) :
    (entries.foldl (pruneOne request) ⟨index, dir, {}⟩).outcome.removed ⊆
      doomed request entries := by
  induction entries using List.reverseRecOn with
  | nil => exact List.Subset.refl _
  | append_singleton entries entry ih =>
      rw [List.foldl_append, List.foldl_cons, List.foldl_nil, doomed_concat]
      rcases removed_pruneOne request
          (entries.foldl (pruneOne request) ⟨index, dir, {}⟩) entry with
        hkept | ⟨hremoves, hmore⟩
      · rw [hkept]
        exact List.subset_append_of_subset_left _ ih
      · rw [hmore, if_pos hremoves]
        exact List.append_subset.mpr
          ⟨List.subset_append_of_subset_left _ ih,
            List.subset_append_right _ _⟩

/-- A prune in which nothing fails does what it plans. -/
theorem foldl_of_failed_eq_nil {request : PruneRequest}
    (h : request.dryRun = false) {index : RunIndex F} {dir : RunsDir}
    {entries : List (IndexedRun F × ℕ)}
    (hnodup : (entries.map fun entry => entry.1.runId).Nodup)
    (hfailed : (entries.foldl (pruneOne request)
      ⟨index, dir, {}⟩).outcome.failed = []) :
    entries.foldl (pruneOne request) ⟨index, dir, {}⟩ =
      ⟨index.deleteAll (doomed request entries),
        dir.deleteAll ((doomed request entries).map RunId.asStr),
        plan request dir entries⟩ := by
  induction entries using List.reverseRecOn with
  | nil => rfl
  | append_singleton entries entry ih =>
      rw [List.map_append, List.map_singleton] at hnodup
      rw [List.foldl_append, List.foldl_cons, List.foldl_nil] at hfailed ⊢
      have hgrows := failed_pruneOne request
        (entries.foldl (pruneOne request) ⟨index, dir, {}⟩) entry
      rw [hfailed] at hgrows
      have hbefore := List.prefix_nil.mp hgrows
      rw [ih hnodup.of_append_left hbefore] at hfailed ⊢
      have hnew : entry.1.runId ∉ doomed request entries := by
        intro hmem
        obtain ⟨other, hother, hid⟩ := List.mem_map.mp hmem
        refine List.disjoint_of_nodup_append hnodup ?_
          (List.mem_singleton_self _)
        exact List.mem_map.mpr ⟨other, (List.mem_filter.mp hother).1, hid⟩
      have hname : entry.1.runId.asStr ∉
          (doomed request entries).map RunId.asStr := fun hmem => by
        obtain ⟨other, hother, hid⟩ := List.mem_map.mp hmem
        exact hnew (RunId.asStr_injective hid ▸ hother)
      rw [plan_concat, doomed_concat, List.map_append]
      simp only [pruneOne, h] at hfailed ⊢
      by_cases hselects : selects request entry.1 entry.2 = true
      · by_cases hinvalid : entry.1.resultState = .invalid
        · simp [removes, retains, hselects, hinvalid, plan]
        · have hremoves : removes request entry = true := by
            simp [removes, hselects, hinvalid]
          have hretains : retains request entry = false := by
            simp [retains, hinvalid]
          have hbytes : directoryBytes
              (dir.deleteAll ((doomed request entries).map RunId.asStr))
              entry.1.runId = directoryBytes dir entry.1.runId := by
            rw [directoryBytes, directoryBytes, Table.find?_deleteAll hname]
          simp only [hselects, hinvalid, Bool.not_true, Bool.false_eq_true,
            if_false] at hfailed ⊢
          split at hfailed
          · exact absurd hfailed (by simp)
          · simp only [hremoves, hretains, if_true, if_false,
              Bool.false_eq_true, hbytes, List.map_singleton,
              Table.deleteAll_concat, List.append_nil]
            rfl
      · simp [removes, retains, hselects, plan]

end Pruning

/-! ## The window -/

variable {F : Type}

/-- The rows hold the texts of finish times in years of four digits, no two of
them alike. -/
structure RunIndex.Dated [Rfc3339] (index : RunIndex F)
    (finished : RunId → Timestamp) : Prop where
  inYears : ∀ row ∈ index.rows, InYears (finished row.runId)
  finishedAt : ∀ row ∈ index.rows,
    row.finishedAt = Rfc3339.toRfc3339 (finished row.runId)
  injective : ∀ row ∈ index.rows, ∀ other ∈ index.rows,
    finished row.runId = finished other.runId → row.runId = other.runId

/-- The rows of the runs that finished later than a given one. -/
def RunIndex.later (index : RunIndex F) (finished : RunId → Timestamp)
    (runId : RunId) : List (RunRow F) :=
  index.rows.filter fun row => finished runId < finished row.runId

/-- The run is older than the policy of a request allows. -/
def TooOld (request : PruneRequest) (finishedAt : Timestamp) : Prop :=
  ∃ cutoff, Pruning.cutoff request = some cutoff ∧ finishedAt < cutoff

section Window

variable [Rfc3339] [LawfulRfc3339] {index : RunIndex F}
  {finished : RunId → Timestamp}

theorem RunIndex.Dated.finishedAt_lt_iff (h : index.Dated finished)
    {row other : RunRow F} (hrow : row ∈ index.rows)
    (hother : other ∈ index.rows) :
    row.finishedAt < other.finishedAt ↔
      finished row.runId < finished other.runId := by
  have hinRow := h.inYears row hrow
  have hinOther := h.inYears other hother
  rw [h.finishedAt row hrow, h.finishedAt other hother,
    LawfulRfc3339.toRfc3339_eq _ hinRow,
    LawfulRfc3339.toRfc3339_eq _ hinOther, timeText_lt_iff hinRow hinOther]

theorem RunIndex.Dated.rowToRun_finishedAt (h : index.Dated finished)
    {row : RunRow F} (hrow : row ∈ index.rows) :
    (rowToRun row).finishedAt = finished row.runId := by
  have hparse := LawfulRfc3339.parse_toRfc3339 _ (h.inYears row hrow)
  rw [rowToRun, h.finishedAt row hrow, hparse, Option.getD_some]

/-- Before a row in the list stand only rows of later runs. -/
theorem RunIndex.Dated.le_length_later (h : index.Dated finished)
    {run : IndexedRun F} {position : ℕ}
    (hmem : (run, position) ∈ index.list.zipIdx) :
    position ≤ (index.later finished run.runId).length := by
  let sorted := index.rows.mergeSort fun a b => b.finishedAt ≤ a.finishedAt
  have hsorted : sorted.Pairwise fun a b => b.finishedAt ≤ a.finishedAt := by
    have htrans : ∀ a b c : RunRow F,
        decide (b.finishedAt ≤ a.finishedAt) = true →
          decide (c.finishedAt ≤ b.finishedAt) = true →
            decide (c.finishedAt ≤ a.finishedAt) = true := by
      intro a b c hab hbc
      exact decide_eq_true
        (le_trans (of_decide_eq_true hbc) (of_decide_eq_true hab))
    have htotal : ∀ a b : RunRow F,
        (decide (b.finishedAt ≤ a.finishedAt) ||
          decide (a.finishedAt ≤ b.finishedAt)) = true := by
      intro a b
      rw [Bool.or_eq_true, decide_eq_true_eq, decide_eq_true_eq]
      exact le_total b.finishedAt a.finishedAt
    exact (List.pairwise_mergeSort htrans htotal index.rows).imp
      of_decide_eq_true
  have hperm : sorted.Perm index.rows := List.mergeSort_perm _ _
  have hnodup : (sorted.map RunRow.runId).Nodup :=
    (hperm.map RunRow.runId).nodup_iff.mpr index.nodup
  obtain ⟨hlt, hget⟩ := List.mem_zipIdx' hmem
  have hlength : position < sorted.length := by
    rwa [RunIndex.list, List.length_map] at hlt
  have hrun : run.runId = sorted[position].runId := by
    rw [hget]
    simp only [RunIndex.list, List.getElem_map]
    rfl
  have hlater : ∀ row ∈ sorted.take position,
      finished run.runId < finished row.runId := by
    intro row hrow
    obtain ⟨i, hi, rfl⟩ := List.mem_take_iff_getElem.mp hrow
    have hi' : i < position := by omega
    have hle := List.pairwise_iff_getElem.mp hsorted i position
      (hi'.trans hlength) hlength hi'
    have hmemPosition := hperm.mem_iff.mp (List.getElem_mem hlength)
    have hmemI := hperm.mem_iff.mp (List.getElem_mem (hi'.trans hlength))
    have hnot := not_lt.mpr hle
    rw [h.finishedAt_lt_iff hmemI hmemPosition, not_lt] at hnot
    rw [hrun]
    refine hnot.lt_of_ne fun heq => ?_
    have hids := h.injective _ hmemPosition _ hmemI heq
    have hne := List.pairwise_iff_getElem.mp (List.pairwise_map.mp hnodup) i
      position (hi'.trans hlength) hlength hi'
    exact hne hids.symm
  calc position = (sorted.take position).length := by
        rw [List.length_take, min_eq_left hlength.le]
    _ = ((sorted.take position).filter fun row =>
          finished run.runId < finished row.runId).length := by
        rw [List.filter_eq_self.mpr]
        exact fun row hrow => decide_eq_true (hlater row hrow)
    _ ≤ (sorted.filter fun row =>
          finished run.runId < finished row.runId).length :=
        ((List.take_sublist position sorted).filter _).length_le
    _ = (index.later finished run.runId).length :=
        (hperm.filter _).length_eq

theorem RunIndex.Dated.selects_iff (h : index.Dated finished)
    {request : PruneRequest} {entry : IndexedRun F × ℕ}
    (hentry : entry ∈ index.list.zipIdx) :
    Pruning.selects request entry.1 entry.2 = true ↔
      TooOld request (finished entry.1.runId) ∨
        ∃ keep, request.policy.keepLast = some keep ∧ keep ≤ entry.2 := by
  obtain ⟨row, hrow, hrun⟩ :=
    RunIndex.mem_list_iff.mp (List.fst_mem_of_mem_zipIdx hentry)
  have hfinished : entry.1.finishedAt = finished entry.1.runId := by
    rw [← hrun]
    exact h.rowToRun_finishedAt hrow
  rw [Pruning.selects, hfinished, Bool.or_eq_true, Option.any_eq_true,
    Option.any_eq_true]
  simp only [decide_eq_true_eq, TooOld]

omit [LawfulRfc3339] in
/-- The list names every run once. -/
theorem RunIndex.nodup_runId_list (index : RunIndex F) :
    (index.list.zipIdx.map fun entry => entry.1.runId).Nodup := by
  have hmap : (index.list.zipIdx.map fun entry => entry.1.runId) =
      (index.list.zipIdx.map Prod.fst).map IndexedRun.runId := by
    rw [List.map_map]
    rfl
  have hids : index.list.map IndexedRun.runId =
      (index.rows.mergeSort fun a b => b.finishedAt ≤ a.finishedAt).map
        RunRow.runId := by
    rw [RunIndex.list, List.map_map]
    rfl
  rw [hmap, List.zipIdx_map_fst, hids]
  exact ((List.mergeSort_perm _ _).map RunRow.runId).nodup_iff.mpr index.nodup

end Window

/-! ## The dry run and the prune -/

/-- The dry run changes nothing, and if nothing fails, the prune reports the
same and removes what it reports, rows and directories alike. -/
structure Predicts (index : RunIndex F) (dir : RunsDir)
    (dry real : Pruning F) : Prop where
  index_dry : dry.index = index
  dir_dry : dry.dir = dir
  outcome : real.outcome.failed = [] → real.outcome = dry.outcome
  index_real : real.outcome.failed = [] → ∀ row,
    row ∈ real.index.rows ↔
      row ∈ index.rows ∧ row.runId ∉ real.outcome.removed
  dir_real : real.outcome.failed = [] → ∀ entry,
    entry ∈ real.dir.rows ↔
      entry ∈ dir.rows ∧
        entry.name ∉ real.outcome.removed.map RunId.asStr

section Prune

variable [Rfc3339] [LawfulRfc3339] {index : RunIndex F}
  {finished : RunId → Timestamp}

/-- No finish time lies between the cutoffs of two readings of the clock. -/
def SameCutoff (index : RunIndex F) (finished : RunId → Timestamp)
    (request : PruneRequest) (now : Timestamp) : Prop :=
  ∀ row ∈ index.rows, TooOld request (finished row.runId) ↔
    TooOld { request with now := now } (finished row.runId)

theorem RunIndex.Dated.predicts (h : index.Dated finished) (dir : RunsDir)
    {request : PruneRequest} {now : Timestamp}
    (hclock : SameCutoff index finished request now) :
    Predicts index dir (index.prune dir { request with dryRun := true })
      (index.prune dir { request with dryRun := false, now := now }) := by
  by_cases hempty : request.policy.isEmpty = true
  · have hprune : ∀ dryRun now, index.prune dir
        { request with dryRun := dryRun, now := now } =
          ⟨index, dir, {}⟩ :=
      fun _ _ => if_pos hempty
    rw [hprune true request.now, hprune false now]
    exact ⟨rfl, rfl, fun _ => rfl, by simp, by simp⟩
  · have hprune : ∀ dryRun now, index.prune dir
        { request with dryRun := dryRun, now := now } =
          index.list.zipIdx.foldl
            (Pruning.pruneOne { request with dryRun := dryRun, now := now })
            ⟨index, dir, {}⟩ :=
      fun _ _ => if_neg hempty
    have hdry : index.list.zipIdx.foldl
        (Pruning.pruneOne { request with dryRun := true }) ⟨index, dir, {}⟩ =
          ⟨index, dir, Pruning.plan { request with dryRun := true } dir
            index.list.zipIdx⟩ :=
      Pruning.foldl_of_dryRun rfl index dir _
    have hselects : ∀ entry ∈ index.list.zipIdx,
        Pruning.selects { request with dryRun := true } entry.1 entry.2 =
          Pruning.selects { request with dryRun := false, now := now }
            entry.1 entry.2 := by
      intro entry hentry
      obtain ⟨row, hrow, hrun⟩ :=
        RunIndex.mem_list_iff.mp (List.fst_mem_of_mem_zipIdx hentry)
      have hid : entry.1.runId = row.runId := by
        rw [← hrun]
        rfl
      rw [Bool.eq_iff_iff, h.selects_iff hentry, h.selects_iff hentry, hid]
      exact or_congr_left (hclock row hrow)
    rw [hprune true request.now, hprune false now, hdry,
      Pruning.plan_congr hselects]
    refine ⟨rfl, rfl, fun hfailed => ?_, fun hfailed row => ?_,
      fun hfailed entry => ?_⟩
    · rw [Pruning.foldl_of_failed_eq_nil rfl index.nodup_runId_list hfailed]
    · rw [Pruning.foldl_of_failed_eq_nil rfl index.nodup_runId_list hfailed]
      exact Table.mem_deleteAll_iff
    · rw [Pruning.foldl_of_failed_eq_nil rfl index.nodup_runId_list hfailed]
      exact Table.mem_deleteAll_iff

/-- A run that a prune reports as removed is too old, or outside the window of
the runs that finished last. -/
theorem RunIndex.Dated.tooOld_or_le (h : index.Dated finished) (dir : RunsDir)
    {request : PruneRequest} {keep : ℕ}
    (hkeep : request.policy.keepLast = some keep) {runId : RunId}
    (hremoved : runId ∈ (index.prune dir request).outcome.removed) :
    TooOld request (finished runId) ∨
      keep ≤ (index.later finished runId).length := by
  have hempty : ¬ request.policy.isEmpty = true := by
    rw [RetentionPolicy.isEmpty, hkeep]
    simp
  rw [RunIndex.prune, if_neg hempty] at hremoved
  obtain ⟨entry, hentry, rfl⟩ := List.mem_map.mp
    (Pruning.removed_subset_doomed request index dir _ hremoved)
  obtain ⟨hmem, hremoves⟩ := List.mem_filter.mp hentry
  rw [Pruning.removes, Bool.and_eq_true] at hremoves
  rcases (h.selects_iff hmem).mp hremoves.1 with hold | ⟨other, hother, hle⟩
  · exact .inl hold
  · obtain rfl : other = keep := Option.some.inj (hother.symm.trans hkeep)
    exact .inr (hle.trans (h.le_length_later hmem))

/-- A dry run of a prune predicts the prune, and a run among those that finished
last is removed by neither unless it is too old. -/
theorem RunIndex.prune_predicted (h : index.Dated finished) (dir : RunsDir)
    (request : PruneRequest) :
    (∀ now, SameCutoff index finished request now →
      Predicts index dir (index.prune dir { request with dryRun := true })
        (index.prune dir { request with dryRun := false, now := now })) ∧
    ∀ keep, request.policy.keepLast = some keep →
      ∀ runId ∈ (index.prune dir request).outcome.removed,
        TooOld request (finished runId) ∨
          keep ≤ (index.later finished runId).length :=
  ⟨fun _ hclock => h.predicts dir hclock,
    fun _ hkeep _ hremoved => h.tooOld_or_le dir hkeep hremoved⟩

end Prune

/-! ## A run that is the last one and too old -/

namespace StandIns.TimeTexts

open Classical in
/-- A text is read as the time whose text it is. -/
noncomputable scoped instance : Rfc3339 where
  toRfc3339 := timeText
  parseFromRfc3339 s :=
    if h : ∃ t, InYears t ∧ timeText t = s then some h.choose else none

scoped instance : LawfulRfc3339 where
  toRfc3339_eq _ _ := rfl
  parse_toRfc3339 t ht := by
    have hexists : ∃ s, InYears s ∧ timeText s = timeText t := ⟨t, ht, rfl⟩
    have hspec := hexists.choose_spec
    refine (dif_pos hexists).trans (congrArg some (le_antisymm ?_ ?_))
    · exact (timeText_le_iff hspec.1 ht).mp hspec.2.le
    · exact (timeText_le_iff ht hspec.1).mp hspec.2.ge

end StandIns.TimeTexts

open scoped StandIns.TimeTexts

namespace DryRun

/-- A run that finished at the epoch. -/
def agedRow : RunRow Float :=
  { Archive.writtenRow with finishedAt := timeText 0 }

def agedIndex : RunIndex Float :=
  Table.empty.insertOrReplace agedRow

/-- Two days later, runs of the last day are kept, and the last run. -/
def twoDaysLater : PruneRequest where
  policy := ⟨some 1, some 1⟩
  dryRun := false
  now := 2 * (24 * 60 * 60 * 10 ^ 9)
  removeError _ := none

theorem dated_agedIndex : agedIndex.Dated fun _ => 0 where
  inYears _ _ := by decide +kernel
  finishedAt row hrow := by
    obtain rfl := List.mem_singleton.mp hrow
    rfl
  injective row hrow other hother _ := by
    rw [List.mem_singleton.mp hrow, List.mem_singleton.mp hother]

theorem prune_predicted_agedIndex :
    Predicts agedIndex .empty
        (agedIndex.prune .empty { twoDaysLater with dryRun := true })
        (agedIndex.prune .empty twoDaysLater) ∧
      ∀ runId ∈ (agedIndex.prune .empty twoDaysLater).outcome.removed,
        TooOld twoDaysLater 0 ∨
          1 ≤ (agedIndex.later (fun _ => 0) runId).length := by
  have h := RunIndex.prune_predicted dated_agedIndex .empty twoDaysLater
  exact ⟨h.1 twoDaysLater.now fun _ _ => Iff.rfl, h.2 1 rfl⟩

/-- No other run finished later, and the run is removed all the same. -/
theorem removed_agedIndex :
    agedIndex.Dated (fun _ => 0) ∧ twoDaysLater.policy.keepLast = some 1 ∧
      ∃ runId ∈ (agedIndex.prune .empty twoDaysLater).outcome.removed,
        (agedIndex.later (fun _ => 0) runId).length < 1 := by
  refine ⟨dated_agedIndex, rfl, StandIns.runId, ?_, by decide⟩
  have hlist : agedIndex.list = [rowToRun agedRow] :=
    congrArg (List.map rowToRun) (List.mergeSort_singleton agedRow)
  have hselects : Pruning.selects twoDaysLater (rowToRun agedRow) 0 = true := by
    have hentry : (rowToRun agedRow, 0) ∈ agedIndex.list.zipIdx := by
      rw [hlist]
      exact List.mem_singleton_self _
    refine (dated_agedIndex.selects_iff hentry).mpr (.inl ?_)
    exact ⟨_, rfl, by decide⟩
  have hstate : (rowToRun agedRow).resultState ≠ .invalid := by decide
  rw [RunIndex.prune, if_neg (by decide), hlist]
  simp only [List.zipIdx_cons, List.zipIdx_nil, List.foldl_cons,
    List.foldl_nil, Pruning.pruneOne, hselects, hstate, Bool.not_true,
    Bool.false_eq_true, if_false]
  exact List.mem_singleton_self _

end DryRun

end Darcbench
