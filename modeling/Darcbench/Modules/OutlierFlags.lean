import Darcbench.Modules.Repetitions
import Darcbench.Protocol.Outliers
import Darcbench.Protocol.Summarize
import Darcbench.Support.Places

/-!
# Outliers of published metrics

A metric is published with its samples and with the places of the outliers.  The
outliers are judged among the usable values only, while the samples are those of
all repetitions.
-/

namespace Darcbench

/-! ## Publishing a metric -/

section

variable {F : Type} [F64 F] [F64.Sqrt F] [F64.Floor F]

/-- The threshold beyond which a score is that of an outlier. -/
def outlierThreshold : F := 3.5

/-- A metric as it is published, from the values that it summarises and from the
samples that it keeps. -/
def publishedMetric (key label unit : String) (direction : Direction)
    (summary : Summary F) (values : List F) (samples : List (MetricSample F)) :
    Metric F where
  key := key
  label := label
  unit := unit
  direction := direction
  value := summary.median
  summary := summary
  samples := samples
  outliers := outlierIndices values outlierThreshold
  measuresDispersion := false
  tailQuantile := false

def CpuMixed.publish (key label unit : String) (outcome : RepOutcome F) :
    Except ModuleError (Metric F) :=
  match summarize outcome.measured with
  | some summary =>
      .ok (publishedMetric key label unit .higherIsBetter summary
        outcome.measured outcome.samples)
  | none => .error (.noSamples key)

/-- The warning about a metric that is withheld. -/
def withheld (key : String) (usable : ℕ) : Warning where
  code := .validationFailed
  message :=
    s!"`{key}` produced {usable} usable repetitions, below the three needed " ++
      "to report a value; it is withheld rather than published from noise."
  metricKey := some key

/-- Publishes a metric of which a failed repetition has no positive value. -/
def pushMetric (key label unit : String) (direction : Direction)
    (values : List F) (samples : List (MetricSample F)) :
    Except Warning (Metric F) :=
  let usable := values.filter fun v => 0.0 < v
  match summarize usable with
  | some summary =>
      if 3 ≤ usable.length then
        .ok (publishedMetric key label unit direction summary usable samples)
      else .error (withheld key usable.length)
  | none => .error (withheld key usable.length)

/-- The throughput of a shape. -/
def WebStatic.pushShape (key label unit : String) (outcome : RepOutcome F) :
    Except Warning (Metric F) :=
  pushMetric key label unit .higherIsBetter outcome.measured outcome.samples

def WebStatic.pushLatency (key label : String) (values : List F)
    (samples : List (MetricSample F)) : Except Warning (Metric F) :=
  pushMetric key label "ms" .lowerIsBetter values samples

def PhpRuntime.pushMetric (key label unit : String) (direction : Direction)
    (values : List F) (samples : List (MetricSample F)) :
    Except Warning (Metric F) :=
  Darcbench.pushMetric key label unit direction values samples

def NodeRuntime.pushMetric (key label unit : String) (direction : Direction)
    (values : List F) (samples : List (MetricSample F)) :
    Except Warning (Metric F) :=
  Darcbench.pushMetric key label unit direction values samples

/-- The places where the modules publish metrics. -/
inductive Publisher
  | cpuMixed (key label unit : String)
  | webStaticShape (key label unit : String)
  | webStaticMean
  /-- The tail of the response times of each measured repetition, if it has
  any. -/
  | webStaticP99
  | phpRuntime (key label unit : String) (direction : Direction)
  | nodeRuntime (key label unit : String) (direction : Direction)

namespace Publisher

/-- Publishes the metric, unless it is withheld.  The tails are those that the
measured repetitions have left behind. -/
def publish (publisher : Publisher) (outcome : RepOutcome F) (tails : List F) :
    Option (Metric F) :=
  match publisher with
  | cpuMixed key label unit =>
      (CpuMixed.publish key label unit outcome).toOption
  | webStaticShape key label unit =>
      (WebStatic.pushShape key label unit outcome).toOption
  | webStaticMean =>
      (WebStatic.pushLatency "latency.small_mean"
        "Mean response time under load" outcome.measured
        outcome.samples).toOption
  | webStaticP99 =>
      (WebStatic.pushLatency "latency.small_p99"
        "99th percentile response time under load" tails []).toOption
  | phpRuntime key label unit direction =>
      (PhpRuntime.pushMetric key label unit direction outcome.measured
        outcome.samples).toOption
  | nodeRuntime key label unit direction =>
      (NodeRuntime.pushMetric key label unit direction outcome.measured
        outcome.samples).toOption

/-- Whether a value counts.  The module that cannot fail drops none. -/
def isUsable : Publisher → F → Bool
  | cpuMixed .., _ => true
  | _, v => 0.0 < v

/-- The repetition is measured and usable. -/
def counts (publisher : Publisher) (sample : MetricSample F) : Bool :=
  !sample.warmup && publisher.isUsable sample.value

/-- The values among which outliers are judged. -/
def judged (publisher : Publisher) (outcome : RepOutcome F) (tails : List F) :
    List F :=
  match publisher with
  | webStaticP99 => tails.filter (isUsable webStaticP99)
  | _ => outcome.measured.filter publisher.isUsable

end Publisher

/-- The outliers are places of samples that count, and flag exactly those that
deviate from the values among which they are judged. -/
structure FlagsItsSamples (counts : MetricSample F → Bool) (judged : List F)
    (metric : Metric F) : Prop where
  increasing : metric.outliers.Pairwise (· < ·)
  counted : ∀ i ∈ metric.outliers,
    ∃ sample, metric.samples[i]? = some sample ∧ counts sample = true
  exact : ∀ (i : ℕ) (sample : MetricSample F),
    metric.samples[i]? = some sample → counts sample = true →
      (i ∈ metric.outliers ↔ Deviates judged outlierThreshold sample.value)
  complete : ∀ v ∈ judged, Deviates judged outlierThreshold v →
    ∃ i ∈ metric.outliers, ∃ sample, metric.samples[i]? = some sample ∧
      sample.value = v

namespace Publisher

/-- No value that is judged deviates.  Where the samples are published with the
metric it may, if the deviation is above the least one that is scored and
nothing before it is a warm-up or unusable. -/
def Aligned (publisher : Publisher) (outcome : RepOutcome F)
    (tails : List F) : Prop :=
  match publisher with
  | webStaticP99 =>
      ∀ v ∈ publisher.judged outcome tails,
        ¬ Deviates (publisher.judged outcome tails) outlierThreshold v
  | _ =>
      ∀ (i : ℕ) (sample : MetricSample F), outcome.samples[i]? = some sample →
        publisher.counts sample = true →
        Deviates (publisher.judged outcome tails) outlierThreshold
            sample.value →
          SpreadsEnough (publisher.judged outcome tails) ∧
            ∀ j ≤ i, ∃ before, outcome.samples[j]? = some before ∧
              publisher.counts before = true

end Publisher

end

/-! ## What is published -/

section

variable {F : Type} [F64 F] [F64.Sqrt F] [F64.Floor F]

/-- A published metric, from the values that it summarises. -/
structure IsPublished (values : List F) (samples : List (MetricSample F))
    (metric : Metric F) : Prop where
  outliers : metric.outliers = outlierIndices values outlierThreshold
  samples : metric.samples = samples

theorem isPublished_of_pushMetric {key label unit : String}
    {direction : Direction} {values : List F} {samples : List (MetricSample F)}
    {metric : Metric F}
    (h : (pushMetric key label unit direction values samples).toOption =
      some metric) :
    IsPublished (values.filter fun v => 0.0 < v) samples metric := by
  rw [pushMetric] at h
  split at h
  · split at h
    · obtain rfl := Option.some.inj h
      exact ⟨rfl, rfl⟩
    · cases h
  · cases h

theorem CpuMixed.isPublished {key label unit : String} {outcome : RepOutcome F}
    {metric : Metric F}
    (h : (publish key label unit outcome).toOption = some metric) :
    IsPublished outcome.measured outcome.samples metric := by
  rw [publish] at h
  split at h
  · obtain rfl := Option.some.inj h
    exact ⟨rfl, rfl⟩
  · cases h

namespace Publisher

/-- The samples that are published with the metric. -/
def samples (publisher : Publisher) (outcome : RepOutcome F) :
    List (MetricSample F) :=
  match publisher with
  | webStaticP99 => []
  | _ => outcome.samples

theorem isPublished {publisher : Publisher} {outcome : RepOutcome F}
    {tails : List F} {metric : Metric F}
    (h : publisher.publish outcome tails = some metric) :
    IsPublished (publisher.judged outcome tails) (publisher.samples outcome)
      metric := by
  cases publisher with
  | cpuMixed key label unit =>
      have hpublished := CpuMixed.isPublished h
      have hall : outcome.measured.filter (isUsable (cpuMixed key label unit)) =
          outcome.measured :=
        List.filter_true _
      change IsPublished (outcome.measured.filter
        (isUsable (cpuMixed key label unit))) outcome.samples metric
      rw [hall]
      exact hpublished
  | webStaticShape => exact isPublished_of_pushMetric h
  | webStaticMean => exact isPublished_of_pushMetric h
  | webStaticP99 => exact isPublished_of_pushMetric h
  | phpRuntime => exact isPublished_of_pushMetric h
  | nodeRuntime => exact isPublished_of_pushMetric h

omit [F64.Sqrt F] [F64.Floor F] in
/-- The usable values are those of the samples that count. -/
theorem filter_measured {publisher : Publisher} {outcome : RepOutcome F}
    (h : outcome.measured = measuredValues outcome.samples) :
    outcome.measured.filter publisher.isUsable =
      (outcome.samples.filter publisher.counts).map (·.value) := by
  rw [h, measuredValues, List.filter_map, List.filter_filter]
  refine congrArg (List.map _) (List.filter_congr fun sample _ => ?_)
  rw [counts, Bool.and_comm]
  rfl

end Publisher

end

/-! ## Alignment -/

section

variable {counts : MetricSample Float → Bool} {judged : List Float}
  {samples : List (MetricSample Float)} {metric : Metric Float}

/-- The flags of a metric whose judged values come from its samples. -/
theorem flagsItsSamples_iff_of_isPublished
    (h : IsPublished judged samples metric)
    (hjudged : judged = (samples.filter counts).map (·.value)) :
    FlagsItsSamples counts judged metric ↔
      ∀ (i : ℕ) (sample : MetricSample Float), samples[i]? = some sample →
        counts sample = true → Deviates judged outlierThreshold sample.value →
          SpreadsEnough judged ∧ ∀ j ≤ i, ∃ before,
            samples[j]? = some before ∧ counts before = true := by
  have hsource : ∀ v ∈ judged, ∃ (i : ℕ) (sample : MetricSample Float),
      samples[i]? = some sample ∧ counts sample = true ∧
        sample.value = v := by
    intro v hv
    rw [hjudged] at hv
    obtain ⟨sample, hmem, rfl⟩ := List.mem_map.mp hv
    obtain ⟨hsample, hcounts⟩ := List.mem_filter.mp hmem
    obtain ⟨i, hi⟩ := List.mem_iff_getElem?.mp hsample
    exact ⟨i, sample, hi, hcounts, rfl⟩
  by_cases hspread : SpreadsEnough judged
  · have hplaces : ∀ k, k ∈ metric.outliers ↔
        ∃ sample, (samples.filter counts)[k]? = some sample ∧
          Deviates judged outlierThreshold sample.value := by
      intro k
      have hplace : ∀ v, judged[k]? = some v ↔
          ∃ sample, (samples.filter counts)[k]? = some sample ∧
            sample.value = v := by
        intro v
        rw [hjudged, List.getElem?_map, Option.map_eq_some_iff]
      rw [h.outliers, mem_outlierIndices_iff le_epsilon_of_le_zero hspread]
      constructor
      · rintro ⟨v, hv, hdeviates⟩
        obtain ⟨sample, hsample, rfl⟩ := (hplace v).mp hv
        exact ⟨sample, hsample, hdeviates⟩
      · rintro ⟨sample, hsample, hdeviates⟩
        exact ⟨_, (hplace _).mpr ⟨sample, hsample, rfl⟩, hdeviates⟩
    have hiff := places_kept_iff hplaces
    constructor
    · intro hflags i sample hi hcounts hdeviates
      refine ⟨hspread, hiff.mp ⟨?_, ?_⟩ i sample hi hcounts hdeviates⟩
      · rw [← h.samples]
        exact hflags.counted
      · rw [← h.samples]
        exact hflags.exact
    · intro haligned
      obtain ⟨hcounted, hexact⟩ := hiff.mpr fun i sample hi hcounts hdev =>
        (haligned i sample hi hcounts hdev).2
      exact
        { increasing := by
            rw [h.outliers]
            exact pairwise_outlierIndices _ _
          counted := by
            rw [h.samples]
            exact hcounted
          exact := by
            rw [h.samples]
            exact hexact
          complete := by
            intro v hv hdeviates
            obtain ⟨i, sample, hi, hcounts, rfl⟩ := hsource v hv
            rw [h.samples]
            exact ⟨i, (hexact i sample hi hcounts).mpr hdeviates, sample, hi,
              rfl⟩ }
  · have hnone : metric.outliers = [] :=
      h.outliers.trans (outlierIndices_of_not_spreadsEnough _ hspread)
    constructor
    · intro hflags i sample hi hcounts hdeviates
      have hmem := (hflags.exact i sample (h.samples ▸ hi) hcounts).mpr
        hdeviates
      rw [hnone] at hmem
      exact absurd hmem List.not_mem_nil
    · intro haligned
      have hquiet : ∀ (i : ℕ) (sample : MetricSample Float),
          samples[i]? = some sample → counts sample = true →
            ¬ Deviates judged outlierThreshold sample.value :=
        fun i sample hi hcounts hdev =>
          hspread (haligned i sample hi hcounts hdev).1
      exact
        { increasing := by
            rw [hnone]
            exact List.Pairwise.nil
          counted := by
            rw [hnone]
            exact fun i hi => absurd hi List.not_mem_nil
          exact := by
            intro i sample hi hcounts
            rw [h.samples] at hi
            rw [hnone]
            exact iff_of_false List.not_mem_nil (hquiet i sample hi hcounts)
          complete := by
            intro v hv hdeviates
            obtain ⟨i, sample, hi, hcounts, rfl⟩ := hsource v hv
            exact absurd hdeviates (hquiet i sample hi hcounts) }

/-- The flags of a metric without samples. -/
theorem flagsItsSamples_iff_of_no_samples (h : IsPublished judged [] metric) :
    FlagsItsSamples counts judged metric ↔
      ∀ v ∈ judged, ¬ Deviates judged outlierThreshold v := by
  constructor
  · intro hflags v hv hdeviates
    obtain ⟨i, -, sample, hi, -⟩ := hflags.complete v hv hdeviates
    rw [h.samples] at hi
    cases hi
  · intro hquiet
    have hnone : metric.outliers = [] := by
      rw [h.outliers]
      by_cases hspread : SpreadsEnough judged
      · refine List.eq_nil_iff_forall_not_mem.mpr fun k hk => ?_
        obtain ⟨v, hv, hdeviates⟩ :=
          (mem_outlierIndices_iff le_epsilon_of_le_zero hspread k).mp hk
        exact hquiet v (List.mem_of_getElem? hv) hdeviates
      · exact outlierIndices_of_not_spreadsEnough _ hspread
    exact
      { increasing := by
          rw [hnone]
          exact List.Pairwise.nil
        counted := by
          rw [hnone]
          exact fun i hi => absurd hi List.not_mem_nil
        exact := by
          intro i sample hi
          rw [h.samples] at hi
          cases hi
        complete := fun v hv hdeviates => absurd hdeviates (hquiet v hv) }

/-- The outliers of a published metric are flagged at their own samples exactly
when the metric has none, or when nothing is dropped before them. -/
theorem Publisher.flagsItsSamples_iff (publisher : Publisher)
    (warmupReps measuredReps : ℕ) (metricKey : String)
    (isCancelled : ℕ → Bool) (runRep : ℕ → Float × Float)
    (outcome : RepOutcome Float)
    (h : timeReps warmupReps measuredReps metricKey isCancelled runRep =
      .ok outcome)
    (tails : List Float) (metric : Metric Float)
    (hmetric : publisher.publish outcome tails = some metric) :
    FlagsItsSamples publisher.counts (publisher.judged outcome tails) metric ↔
      publisher.Aligned outcome tails := by
  have hpublished := isPublished hmetric
  have hmeasured := @filter_measured _ _ publisher _
    (keeps_of_timeReps h).measured
  cases publisher with
  | webStaticP99 => exact flagsItsSamples_iff_of_no_samples hpublished
  | cpuMixed => exact flagsItsSamples_iff_of_isPublished hpublished hmeasured
  | webStaticShape =>
      exact flagsItsSamples_iff_of_isPublished hpublished hmeasured
  | webStaticMean =>
      exact flagsItsSamples_iff_of_isPublished hpublished hmeasured
  | phpRuntime =>
      exact flagsItsSamples_iff_of_isPublished hpublished hmeasured
  | nodeRuntime =>
      exact flagsItsSamples_iff_of_isPublished hpublished hmeasured

end

/-! ### A run with an outlier -/

/-- Three repetitions alike and one far from them, after some warm-ups. -/
def outlyingRep (warmupReps rep : ℕ) : Float × Float :=
  ([1.0, 2.0, 3.0, 100.0].getD (rep - warmupReps) 0.0, 100.0)

def outlyingValues : List Float := [1.0, 2.0, 3.0, 100.0]

theorem sortPartial_outlyingValues :
    F64.sortPartial outlyingValues = outlyingValues :=
  List.mergeSort_of_pairwise (by decide)

theorem medianOfSorted_outlyingValues :
    F64.medianOfSorted outlyingValues = some 2.5 := by
  decide +kernel

theorem medianAndMad_outlyingValues :
    medianAndMad outlyingValues = some (2.5, 1.0) := by
  have hdeviations : (outlyingValues.map fun v => F64.abs (v - 2.5)) =
      [1.5, 0.5, 0.5, 97.5] := by
    decide +kernel
  have hsorted : F64.sortPartial [1.5, 0.5, 0.5, (97.5 : Float)] =
      [0.5, 0.5, 1.5, 97.5] := by
    have hlow : (0.5 : Float) < 1.5 := by decide +kernel
    have hself : ¬ (0.5 : Float) < 0.5 := by decide +kernel
    have hhigh : ¬ (97.5 : Float) < 0.5 := by decide +kernel
    have hlast : ¬ (97.5 : Float) < 1.5 := by decide +kernel
    simp [F64.sortPartial, List.mergeSort,
      List.MergeSort.Internal.splitInTwo, hlow, hself, hhigh, hlast]
  have hmad : F64.medianOfSorted [0.5, 0.5, 1.5, (97.5 : Float)] =
      some 1.0 := by
    decide +kernel
  rw [medianAndMad, sortPartial_outlyingValues, medianOfSorted_outlyingValues,
    Option.bind_eq_bind, Option.bind_some, hdeviations]
  dsimp only
  rw [hsorted, hmad]
  rfl

theorem spreadsEnough_outlyingValues : SpreadsEnough outlyingValues :=
  ⟨_, medianAndMad_outlyingValues, by decide⟩

theorem exists_summarize_outlyingValues :
    ∃ summary, summarize outlyingValues = some summary := by
  have hfinite : (outlyingValues.isEmpty ||
      outlyingValues.any fun v => !F64.isFinite v) = false := by
    decide
  rw [summarize, hfinite, if_neg Bool.false_ne_true,
    sortPartial_outlyingValues]
  obtain ⟨summary, hsummary, -⟩ :=
    exists_describe (List.cons_ne_nil _ _) medianOfSorted_outlyingValues
  exact ⟨summary, hsummary⟩

def sha256Single : Publisher :=
  .cpuMixed "crypto_sha256.single" "SHA-256 hashing (single)" "MiB/s"

/-- What is published of the repetitions after some warm-ups. -/
theorem exists_published_outlyingRep (warmupReps : ℕ)
    (hvalues : measuredValues ((List.range (warmupReps + 4)).map
      (repSample warmupReps (outlyingRep warmupReps))) = outlyingValues) :
    ∃ outcome metric,
      timeReps warmupReps 4 "crypto_sha256.single" (fun _ => false)
        (outlyingRep warmupReps) = .ok outcome ∧
      outcome.samples = (List.range (warmupReps + 4)).map
        (repSample warmupReps (outlyingRep warmupReps)) ∧
      sha256Single.judged outcome [] = outlyingValues ∧
      sha256Single.publish outcome [] = some metric := by
  obtain ⟨outcome, houtcome⟩ := @exists_timeReps Float _ _ warmupReps
    "crypto_sha256.single" (fun _ => false) (outlyingRep warmupReps) 4
    fun _ _ => rfl
  have hkeeps := keeps_of_timeReps houtcome
  have hmeasured : outcome.measured = outlyingValues := by
    rw [hkeeps.measured, hkeeps.samples, hvalues]
  obtain ⟨summary, hsummary⟩ := exists_summarize_outlyingValues
  have hmetric : sha256Single.publish outcome [] = some
      (publishedMetric "crypto_sha256.single" "SHA-256 hashing (single)"
        "MiB/s" .higherIsBetter summary outlyingValues outcome.samples) := by
    rw [sha256Single, Publisher.publish, CpuMixed.publish, hmeasured, hsummary]
    rfl
  refine ⟨outcome, _, houtcome, hkeeps.samples, ?_, hmetric⟩
  change outcome.measured.filter (fun _ => true) = _
  rw [List.filter_true, hmeasured]

/-- A run without a warm-up flags its last repetition. -/
theorem flagsItsSamples_outlyingRep :
    ∃ outcome metric,
      timeReps 0 4 "crypto_sha256.single" (fun _ => false) (outlyingRep 0) =
        .ok outcome ∧
      sha256Single.publish outcome [] = some metric ∧
      FlagsItsSamples sha256Single.counts (sha256Single.judged outcome [])
        metric := by
  obtain ⟨outcome, metric, houtcome, hsamples, hjudged, hmetric⟩ :=
    exists_published_outlyingRep 0 rfl
  refine ⟨outcome, metric, houtcome, hmetric, ?_⟩
  refine (Publisher.flagsItsSamples_iff _ _ _ _ _ _ _ houtcome _ _
    hmetric).mpr ?_
  intro i sample hi _ _
  refine ⟨hjudged.symm ▸ spreadsEnough_outlyingValues, fun j hj => ?_⟩
  have hlt : i < outcome.samples.length :=
    (List.getElem?_eq_some_iff.mp hi).1
  refine ⟨_, List.getElem?_eq_getElem (hj.trans_lt hlt), ?_⟩
  simp [hsamples, repSample, Publisher.counts, Publisher.isUsable,
    sha256Single]

/-- With a warm-up, the repetition before the outlier is flagged. -/
theorem not_flagsItsSamples_outlyingRep :
    ∃ outcome metric,
      timeReps 1 4 "crypto_sha256.single" (fun _ => false) (outlyingRep 1) =
        .ok outcome ∧
      sha256Single.publish outcome [] = some metric ∧
      ¬ FlagsItsSamples sha256Single.counts (sha256Single.judged outcome [])
        metric := by
  obtain ⟨outcome, metric, houtcome, hsamples, hjudged, hmetric⟩ :=
    exists_published_outlyingRep 1 rfl
  refine ⟨outcome, metric, houtcome, hmetric, fun hflags => ?_⟩
  have hpublished := Publisher.isPublished hmetric
  have hkept := @Publisher.filter_measured _ _ sha256Single _
    (keeps_of_timeReps houtcome).measured
  have hall : sha256Single.samples outcome =
      (List.range 5).map (repSample 1 (outlyingRep 1)) :=
    hsamples
  have hdeviates : Deviates (sha256Single.judged outcome []) outlierThreshold
      (100.0 : Float) := by
    rw [hjudged]
    exact ⟨le_rfl, _, medianAndMad_outlyingValues, by decide,
      by decide⟩
  have haligned := (flagsItsSamples_iff_of_isPublished hpublished hkept).mp
    hflags 4 (repSample 1 (outlyingRep 1) 4)
    (by rw [hall]; rfl) rfl hdeviates
  obtain ⟨before, hbefore, hcounts⟩ := haligned.2 0 (Nat.zero_le 4)
  rw [hall] at hbefore
  obtain rfl := Option.some.inj hbefore
  exact Bool.false_ne_true hcounts

end Darcbench
