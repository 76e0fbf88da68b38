import Darcbench.Inventory.Telemetry
import Darcbench.Protocol.Exact
import Darcbench.Support.Lists

/-!
# External load over one interval

The share of the machine that other work took is a difference of differences:
busy jiffies less the run's own, over the same time.  It means what it says
when both counters were read at both ends of one interval.
-/

namespace Darcbench.Inventory

/-! ## What a sample should say -/

/-- What both files of a tick said. -/
structure Reading where
  totals : CpuTotals
  own : ℕ

def CpuFiles.reading (files : CpuFiles) : Option Reading := do
  let totals ← readCpuTotals files.stat
  let own ← readSelfCpuJiffies files.selfStat
  some ⟨totals, own⟩

/-- Jiffies in which the machine did somebody's work. -/
def CpuTotals.busy (totals : CpuTotals) : ℕ :=
  totals.total - totals.idle - totals.iowait - totals.steal

namespace CpuReadings

/-- The percentages are those of the time between two readings. -/
structure SpansInterval (readings : CpuReadings Exact)
    (first last : Reading) : Prop where
  total : first.totals.total < last.totals.total
  busy : readings.cpuBusyPct =
    .fin (100 * (last.totals.busy - first.totals.busy) /
      (last.totals.total - first.totals.total))
  external : readings.cpuExternalBusyPct =
    .fin (100 * ((last.totals.busy - first.totals.busy) -
      (last.own - first.own)) / (last.totals.total - first.totals.total))
  iowait : readings.cpuIowaitPct =
    .fin (100 * (last.totals.iowait - first.totals.iowait) /
      (last.totals.total - first.totals.total))
  steal : readings.cpuStealPct =
    .fin (100 * (last.totals.steal - first.totals.steal) /
      (last.totals.total - first.totals.total))

/-- The percentages are shares of one whole. -/
structure WithinBounds {F : Type} [F64 F] (readings : CpuReadings F) :
    Prop where
  busy : 0.0 ≤ readings.cpuBusyPct ∧ readings.cpuBusyPct ≤ 100.0
  external : 0.0 ≤ readings.cpuExternalBusyPct ∧
    readings.cpuExternalBusyPct ≤ 100.0
  iowait : 0.0 ≤ readings.cpuIowaitPct ∧ readings.cpuIowaitPct ≤ 100.0
  steal : 0.0 ≤ readings.cpuStealPct ∧ readings.cpuStealPct ≤ 100.0
  sum : readings.cpuBusyPct + readings.cpuIowaitPct +
    readings.cpuStealPct ≤ 100.0
  external_le_busy : readings.cpuExternalBusyPct ≤ readings.cpuBusyPct

/-- The percentages are those of the time since an earlier tick. -/
def MeasuredSince (readings : CpuReadings Exact) (earlier : List CpuFiles)
    (tick : CpuFiles) : Prop :=
  ∃ opened ∈ earlier, ∃ first last, opened.reading = some first ∧
    tick.reading = some last ∧ readings.SpansInterval first last

end CpuReadings

/-- A sample never says more than was measured over one interval. -/
structure ReportsOneInterval (earlier : List CpuFiles) (tick : CpuFiles)
    (readings : CpuReadings Exact) : Prop where
  bounds : readings.WithinBounds
  external : readings.cpuExternalBusyPct ≠ 0.0 →
    readings.MeasuredSince earlier tick
  marked : earlier ≠ [] → ¬ readings.MeasuredSince earlier tick →
    readings.cpuUnavailable = true

/-! ## The counters -/

/-- No field of the machine's line ran backwards. -/
structure CpuFields.Before (first last : CpuFields) : Prop where
  user : first.user ≤ last.user
  nice : first.nice ≤ last.nice
  system : first.system ≤ last.system
  idle : first.idle ≤ last.idle
  iowait : first.iowait ≤ last.iowait
  irq : first.irq ≤ last.irq
  softirq : first.softirq ≤ last.softirq
  steal : first.steal ≤ last.steal

/-- Both counters went on between two ticks, and the run's own work was part
of the machine's. -/
structure GoesOn (first last : CpuFiles) : Prop where
  machine : ∀ f l, cpuFields first.stat = some f →
    cpuFields last.stat = some l → f.Before l
  own : ∀ f l, readSelfCpuJiffies first.selfStat = some f →
    readSelfCpuJiffies last.selfStat = some l → f ≤ l
  ours : ∀ f l, first.reading = some f → last.reading = some l →
    l.own - f.own ≤ l.totals.busy - f.totals.busy

/-- The counters of a run of ticks, wherever they were read. -/
structure Counting (ticks : List CpuFiles) : Prop where
  goesOn : ticks.Pairwise GoesOn
  fits : ∀ tick ∈ ticks, ∀ fields, cpuFields tick.stat = some fields →
    fields.sum < 2 ^ 64

/-- What growing fields make of the totals. -/
structure CpuTotals.Grows (first last : CpuTotals) : Prop where
  idle : first.idle ≤ last.idle
  iowait : first.iowait ≤ last.iowait
  steal : first.steal ≤ last.steal
  parts : first.idle + first.iowait + first.steal ≤ first.total
  rest : first.total + (last.idle - first.idle) +
    (last.iowait - first.iowait) + (last.steal - first.steal) ≤ last.total

theorem CpuFields.Before.grows {first last : CpuFields}
    (h : first.Before last) (hfirst : first.sum < 2 ^ 64)
    (hlast : last.sum < 2 ^ 64) :
    (CpuTotals.ofFields first).Grows (CpuTotals.ofFields last) := by
  obtain ⟨huser, hnice, hsystem, hidle, hiowait, hirq, hsoftirq, hsteal⟩ := h
  refine ⟨hidle, hiowait, hsteal, ?_, ?_⟩
  · change first.idle + first.iowait + first.steal ≤ first.sum % 2 ^ 64
    rw [Nat.mod_eq_of_lt hfirst, CpuFields.sum]
    omega
  · change first.sum % 2 ^ 64 + (last.idle - first.idle) +
      (last.iowait - first.iowait) + (last.steal - first.steal) ≤
        last.sum % 2 ^ 64
    rw [Nat.mod_eq_of_lt hfirst, Nat.mod_eq_of_lt hlast, CpuFields.sum,
      CpuFields.sum]
    omega

/-- The busy time of an interval, as the sampler computes it. -/
def busyBetween (first last : CpuTotals) : ℕ :=
  last.total - first.total - (last.idle - first.idle) -
    (last.iowait - first.iowait) - (last.steal - first.steal)

namespace CpuTotals.Grows

variable {first last : CpuTotals} (h : first.Grows last)

include h

theorem total : first.total ≤ last.total := by
  have hrest := h.rest
  omega

theorem busy : first.busy ≤ last.busy := by
  obtain ⟨hidle, hiowait, hsteal, hparts, hrest⟩ := h
  rw [CpuTotals.busy, CpuTotals.busy]
  omega

theorem busyBetween_eq :
    busyBetween first last = last.busy - first.busy := by
  obtain ⟨hidle, hiowait, hsteal, hparts, hrest⟩ := h
  rw [busyBetween, CpuTotals.busy, CpuTotals.busy]
  omega

theorem shares :
    busyBetween first last + (last.iowait - first.iowait) +
      (last.steal - first.steal) ≤ last.total - first.total := by
  obtain ⟨hidle, hiowait, hsteal, hparts, hrest⟩ := h
  rw [busyBetween]
  omega

end CpuTotals.Grows

/-! ## The percentages -/

namespace TelemetrySampler

/-- A share of a whole needs no clamping. -/
theorem clamp_pct {v total : ℕ} (hv : v ≤ total) (htotal : 0 < total) :
    F64.clamp (pct v total : Exact) 0.0 100.0 =
      .fin (100 * v / total) := by
  have hpos : (0 : ℝ) < total := Nat.cast_pos.mpr htotal
  have hpct : (pct v total : Exact) = .fin (100 * v / total) := by
    rw [pct, Exact.ofNat_eq, Exact.ofNat_eq, Exact.fin_div_fin _ hpos.ne',
      Exact.hundred_eq, Exact.fin_mul_fin]
    congr 1
    ring
  have hlow : 0 ≤ 100 * (v : ℝ) / total := by positivity
  have hhigh : 100 * (v : ℝ) / total ≤ 100 := by
    rw [div_le_iff₀ hpos]
    exact mul_le_mul_of_nonneg_left (Nat.cast_le.mpr hv) (by norm_num)
  rw [hpct, Exact.zero_eq, Exact.hundred_eq, Exact.clamp_fin hlow hhigh]

theorem clamp_pct_bounds {v total : ℕ} (hv : v ≤ total)
    (htotal : 0 < total) :
    0.0 ≤ F64.clamp (pct v total : Exact) 0.0 100.0 ∧
      F64.clamp (pct v total : Exact) 0.0 100.0 ≤ 100.0 := by
  have hpos : (0 : ℝ) < total := Nat.cast_pos.mpr htotal
  rw [clamp_pct hv htotal, Exact.zero_eq, Exact.hundred_eq, Exact.fin_le_fin,
    Exact.fin_le_fin, div_le_iff₀ hpos]
  refine ⟨by positivity, ?_⟩
  exact mul_le_mul_of_nonneg_left (Nat.cast_le.mpr hv) (by norm_num)

theorem clamp_pct_mono {v w total : ℕ} (hvw : v ≤ w) (hw : w ≤ total)
    (htotal : 0 < total) :
    F64.clamp (pct v total : Exact) 0.0 100.0 ≤
      F64.clamp (pct w total) 0.0 100.0 := by
  rw [clamp_pct (hvw.trans hw) htotal, clamp_pct hw htotal, Exact.fin_le_fin]
  have hcast : (v : ℝ) ≤ w := Nat.cast_le.mpr hvw
  gcongr

theorem withinBounds_placeholders (unavailable : Bool) :
    (placeholders unavailable : CpuReadings Exact).WithinBounds := by
  have hzero : (0.0 : Exact) ≤ 0.0 ∧ (0.0 : Exact) ≤ 100.0 := by
    rw [Exact.zero_eq, Exact.hundred_eq, Exact.fin_le_fin, Exact.fin_le_fin]
    norm_num
  refine ⟨hzero, hzero, hzero, hzero, ?_, hzero.1⟩
  change (0.0 + 0.0 + 0.0 : Exact) ≤ 100.0
  rw [Exact.zero_eq, Exact.hundred_eq, Exact.fin_add_fin, Exact.fin_add_fin,
    Exact.fin_le_fin]
  norm_num

section

variable {first last : CpuTotals}

theorem external_cases (first last : CpuTotals)
    (currentSelf previousSelf : Option ℕ) :
    (cpuReadings first last currentSelf previousSelf :
        CpuReadings Exact).cpuExternalBusyPct = 0.0 ∨
      ∃ ours, (cpuReadings first last currentSelf previousSelf :
          CpuReadings Exact).cpuExternalBusyPct =
        F64.clamp (pct (busyBetween first last - ours)
          (last.total - first.total)) 0.0 100.0 := by
  cases currentSelf with
  | none => exact .inl rfl
  | some currentSelf =>
      cases previousSelf with
      | none => exact .inl rfl
      | some previousSelf => exact .inr ⟨currentSelf - previousSelf, rfl⟩

theorem withinBounds_cpuReadings (h : first.Grows last)
    (htotal : first.total < last.total) (currentSelf previousSelf : Option ℕ) :
    (cpuReadings first last currentSelf previousSelf :
      CpuReadings Exact).WithinBounds := by
  have hpos : 0 < last.total - first.total := Nat.sub_pos_of_lt htotal
  have hshares := h.shares
  have hbusy : busyBetween first last ≤ last.total - first.total := by omega
  have hiowait : last.iowait - first.iowait ≤ last.total - first.total := by
    omega
  have hsteal : last.steal - first.steal ≤ last.total - first.total := by
    omega
  have hexternal := external_cases first last currentSelf previousSelf
  constructor
  · exact clamp_pct_bounds hbusy hpos
  · rcases hexternal with hzero | ⟨ours, hours⟩
    · rw [hzero]
      exact (withinBounds_placeholders true).external
    · rw [hours]
      exact clamp_pct_bounds ((Nat.sub_le _ _).trans hbusy) hpos
  · exact clamp_pct_bounds hiowait hpos
  · exact clamp_pct_bounds hsteal hpos
  · change F64.clamp (pct (busyBetween first last) _) 0.0 100.0 +
      F64.clamp (pct (last.iowait - first.iowait) _) 0.0 100.0 +
      F64.clamp (pct (last.steal - first.steal) _) 0.0 100.0 ≤ (100.0 : Exact)
    rw [clamp_pct hbusy hpos, clamp_pct hiowait hpos, clamp_pct hsteal hpos,
      Exact.hundred_eq, Exact.fin_add_fin, Exact.fin_add_fin, Exact.fin_le_fin,
      ← add_div, ← add_div, ← mul_add, ← mul_add,
      div_le_iff₀ (Nat.cast_pos.mpr hpos)]
    exact mul_le_mul_of_nonneg_left (mod_cast hshares) (by norm_num)
  · rcases hexternal with hzero | ⟨ours, hours⟩
    · rw [hzero]
      exact (clamp_pct_bounds hbusy hpos).1
    · rw [hours]
      exact clamp_pct_mono (Nat.sub_le _ _) hbusy hpos

/-- With the run's own counter read at both ends of the interval, the
percentages are those of the interval. -/
theorem spansInterval_cpuReadings {first last : Reading}
    (h : first.totals.Grows last.totals)
    (htotal : first.totals.total < last.totals.total)
    (hown : first.own ≤ last.own)
    (hours : last.own - first.own ≤ last.totals.busy - first.totals.busy) :
    (cpuReadings first.totals last.totals (some last.own) (some first.own) :
      CpuReadings Exact).SpansInterval first last := by
  have hpos : 0 < last.totals.total - first.totals.total :=
    Nat.sub_pos_of_lt htotal
  have hshares := h.shares
  have hbusy : busyBetween first.totals last.totals ≤
      last.totals.total - first.totals.total := by omega
  have hours' : last.own - first.own ≤
      busyBetween first.totals last.totals := by
    rw [h.busyBetween_eq]
    exact hours
  constructor
  · exact htotal
  · change F64.clamp (pct (busyBetween first.totals last.totals) _) _ _ = _
    rw [clamp_pct hbusy hpos, h.busyBetween_eq, Nat.cast_sub h.busy,
      Nat.cast_sub htotal.le]
  · change F64.clamp (pct (busyBetween first.totals last.totals -
      (last.own - first.own)) _) _ _ = _
    rw [clamp_pct ((Nat.sub_le _ _).trans hbusy) hpos, Nat.cast_sub hours',
      Nat.cast_sub hown, h.busyBetween_eq, Nat.cast_sub h.busy,
      Nat.cast_sub htotal.le]
  · change F64.clamp (pct (last.totals.iowait - first.totals.iowait) _) _ _ = _
    rw [clamp_pct (by omega) hpos, Nat.cast_sub h.iowait,
      Nat.cast_sub htotal.le]
  · change F64.clamp (pct (last.totals.steal - first.totals.steal) _) _ _ = _
    rw [clamp_pct (by omega) hpos, Nat.cast_sub h.steal,
      Nat.cast_sub htotal.le]

end

end TelemetrySampler

/-! ## The ticks before a sample -/

/-- The newest tick at which the machine's jiffies were read. -/
def lastRead (ticks : List CpuFiles) : Option CpuFiles :=
  (ticks.filter fun tick => (readCpuTotals tick.stat).isSome).getLast?

theorem lastRead_concat_of_some {tick : CpuFiles} {totals : CpuTotals}
    (h : readCpuTotals tick.stat = some totals) (ticks : List CpuFiles) :
    lastRead (ticks ++ [tick]) = some tick := by
  rw [lastRead, List.filter_append, List.filter_cons_of_pos (by rw [h]; rfl),
    List.filter_nil, List.getLast?_concat]

theorem lastRead_concat_of_none {tick : CpuFiles}
    (h : readCpuTotals tick.stat = none) (ticks : List CpuFiles) :
    lastRead (ticks ++ [tick]) = lastRead ticks := by
  rw [lastRead, List.filter_append, List.filter_cons_of_neg (by simp [h]),
    List.filter_nil, List.append_nil, lastRead]

theorem mem_of_lastRead {ticks : List CpuFiles} {tick : CpuFiles}
    (h : lastRead ticks = some tick) : tick ∈ ticks :=
  (List.mem_filter.mp (List.mem_of_getLast? h)).1

namespace TelemetrySampler

/-- The sampler remembers the machine's jiffies of the newest reading. -/
theorem previousCpu_run (ticks : List CpuFiles) :
    (run ticks).previousCpu =
      (lastRead ticks).bind fun tick => readCpuTotals tick.stat := by
  induction ticks using List.reverseRecOn with
  | nil => rfl
  | append_singleton ticks tick ih =>
      rw [run_concat, advance]
      cases hread : readCpuTotals tick.stat with
      | none => rw [lastRead_concat_of_none hread, ih]
      | some totals =>
          rw [lastRead_concat_of_some hread, Option.bind_some, hread]

/-- If the run's own jiffies were read along with them, the sampler remembers
these of the same tick. -/
theorem previousSelfCpu_run {ticks : List CpuFiles} {opened : CpuFiles}
    {own : ℕ} (hopened : lastRead ticks = some opened)
    (hown : readSelfCpuJiffies opened.selfStat = some own) :
    (run ticks).previousSelfCpu = some own := by
  induction ticks using List.reverseRecOn with
  | nil => exact absurd hopened (by simp [lastRead])
  | append_singleton ticks tick ih =>
      rw [run_concat, advance]
      cases hread : readCpuTotals tick.stat with
      | none =>
          rw [lastRead_concat_of_none hread] at hopened
          exact ih hopened
      | some totals =>
          rw [lastRead_concat_of_some hread] at hopened
          obtain rfl := Option.some.inj hopened
          rw [hown]

end TelemetrySampler

theorem CpuFiles.reading_eq_some_iff {files : CpuFiles} {reading : Reading} :
    files.reading = some reading ↔
      readCpuTotals files.stat = some reading.totals ∧
        readSelfCpuJiffies files.selfStat = some reading.own := by
  constructor
  · intro h
    simp only [CpuFiles.reading, Option.bind_eq_bind, Option.bind_eq_some_iff] at h
    obtain ⟨totals, htotals, own, hown, hreading⟩ := h
    obtain rfl := Option.some.inj hreading
    exact ⟨htotals, hown⟩
  · rintro ⟨htotals, hown⟩
    rw [CpuFiles.reading, htotals, hown]
    rfl

theorem Counting.grows {earlier : List CpuFiles} {opened tick : CpuFiles}
    (h : Counting (earlier ++ [tick])) (hmem : opened ∈ earlier)
    {first last : CpuTotals} (hfirst : readCpuTotals opened.stat = some first)
    (hlast : readCpuTotals tick.stat = some last) : first.Grows last := by
  obtain ⟨f, hf, rfl⟩ := Option.map_eq_some_iff.mp hfirst
  obtain ⟨l, hl, rfl⟩ := Option.map_eq_some_iff.mp hlast
  have hgoesOn := (List.pairwise_append.mp h.goesOn).2.2 opened hmem tick
    List.mem_cons_self
  exact (hgoesOn.machine f l hf hl).grows
    (h.fits opened (List.mem_append_left _ hmem) f hf)
    (h.fits tick (List.mem_append_right _ List.mem_cons_self) l hl)

/-! ## Samples of a run -/

/-- The sample continues an interval that both files opened, unless the
machine's jiffies could not be read at all. -/
def Continues (earlier : List CpuFiles) (tick : CpuFiles) : Prop :=
  earlier = [] ∨ readCpuTotals tick.stat = none ∨
    ∃ opened first last, lastRead earlier = some opened ∧
      opened.reading = some first ∧ tick.reading = some last ∧
      first.totals.total < last.totals.total

namespace TelemetrySampler

variable {earlier : List CpuFiles} {tick : CpuFiles}

/-- Whatever could be read, the percentages are shares of one whole. -/
theorem withinBounds_sampleCpu (h : Counting (earlier ++ [tick])) :
    ((run earlier).sampleCpu tick : CpuReadings Exact).WithinBounds := by
  rw [sampleCpu]
  cases hlast : readCpuTotals tick.stat with
  | none => exact withinBounds_placeholders true
  | some last =>
      cases hprevious : (run earlier).previousCpu with
      | none => exact withinBounds_placeholders false
      | some first =>
          by_cases htotal : 0 < last.total - first.total
          · obtain ⟨opened, hopened, hfirst⟩ := Option.bind_eq_some_iff.mp
              ((previousCpu_run earlier).symm.trans hprevious)
            have hgrows :=
              h.grows (mem_of_lastRead hopened) hfirst hlast
            simp only [if_pos htotal]
            exact withinBounds_cpuReadings hgrows
              (Nat.lt_of_sub_pos htotal) _ _
          · simp only [if_neg htotal]
            exact withinBounds_placeholders false

theorem reportsOneInterval_sampleCpu (h : Counting (earlier ++ [tick]))
    (hcontinues : Continues earlier tick) :
    ReportsOneInterval earlier tick ((run earlier).sampleCpu tick) := by
  rcases hcontinues with hfirst | hunread | hopened
  · subst hfirst
    refine ⟨withinBounds_sampleCpu h, ?_, fun hne => absurd rfl hne⟩
    intro hexternal
    refine absurd ?_ hexternal
    rw [sampleCpu]
    cases readCpuTotals tick.stat <;> rfl
  · have hsample : ((run earlier).sampleCpu tick : CpuReadings Exact) =
        placeholders true := by
      rw [sampleCpu, hunread]
    rw [hsample]
    exact ⟨withinBounds_placeholders true, fun hne => absurd rfl hne,
      fun _ _ => rfl⟩
  · obtain ⟨opened, first, last, hopened, hfirst, hlast, htotal⟩ := hopened
    obtain ⟨hfirstTotals, hfirstOwn⟩ := CpuFiles.reading_eq_some_iff.mp hfirst
    obtain ⟨hlastTotals, hlastOwn⟩ := CpuFiles.reading_eq_some_iff.mp hlast
    have hmem := mem_of_lastRead hopened
    have hprevious : (run earlier).previousCpu = some first.totals := by
      rw [previousCpu_run, hopened, Option.bind_some, hfirstTotals]
    have hsample : ((run earlier).sampleCpu tick : CpuReadings Exact) =
        cpuReadings first.totals last.totals (some last.own)
          (some first.own) := by
      simp only [sampleCpu, hlastTotals, hprevious, hlastOwn,
        previousSelfCpu_run hopened hfirstOwn, Nat.sub_pos_of_lt htotal,
        if_true]
    have hgoesOn := (List.pairwise_append.mp h.goesOn).2.2 opened hmem tick
      List.mem_cons_self
    have hspans := spansInterval_cpuReadings
      (h.grows hmem hfirstTotals hlastTotals) htotal
      (hgoesOn.own _ _ hfirstOwn hlastOwn) (hgoesOn.ours _ _ hfirst hlast)
    have hmeasured : ((run earlier).sampleCpu tick :
        CpuReadings Exact).MeasuredSince earlier tick := by
      rw [hsample]
      exact ⟨opened, hmem, first, last, hfirst, hlast, hspans⟩
    exact ⟨withinBounds_sampleCpu h, fun _ => hmeasured,
      fun _ hnot => absurd hmeasured hnot⟩

/-- Every sample of a run says only what was measured over one interval. -/
def ReportsIntervals (ticks : List CpuFiles) : Prop :=
  ∀ earlier tick later, ticks = earlier ++ tick :: later →
    ReportsOneInterval earlier tick ((run earlier).sampleCpu tick)

/-- A run in which no reading of the run's own jiffies is missed beside one of
the machine's, and in which the machine's jiffies go on, reports its external
load over one interval at a time. -/
theorem reportsIntervals_of_continues {ticks : List CpuFiles}
    (h : Counting ticks)
    (hcontinues : ∀ earlier tick later, ticks = earlier ++ tick :: later →
      Continues earlier tick) :
    ReportsIntervals ticks := by
  rintro earlier tick later rfl
  have hinit : earlier ++ [tick] <+: earlier ++ tick :: later :=
    ⟨later, by rw [List.append_assoc, List.singleton_append]⟩
  have hcounting : Counting (earlier ++ [tick]) :=
    ⟨h.goesOn.sublist hinit.sublist,
      fun t ht => h.fits t (hinit.subset ht)⟩
  exact reportsOneInterval_sampleCpu hcounting
    (hcontinues earlier tick later rfl)

end TelemetrySampler

/-! ## A missed reading -/

def statAt (user : String) : Option (List Char) :=
  some ("cpu  ".toList ++ user.toList ++ " 0 0 0 0 0 0 0\n".toList)

def selfStatAt (utime : String) : Option (List Char) :=
  some ("7 (darcbench) R 1 7 7 0 7 0 0 0 0 0 ".toList ++ utime.toList ++
    " 0 0 0".toList)

/-- A busy machine, of which the run itself takes a part. -/
def steadyTicks : List CpuFiles :=
  [⟨statAt "100", selfStatAt "0"⟩, ⟨none, selfStatAt "20"⟩,
    ⟨statAt "300", selfStatAt "50"⟩]

/-- The run's own jiffies are missed once. -/
def skippedTicks : List CpuFiles :=
  [⟨statAt "100", selfStatAt "0"⟩, ⟨statAt "200", none⟩,
    ⟨statAt "300", selfStatAt "50"⟩]

/-- What the files of a machine say that has run user processes only. -/
structure Says (tick : CpuFiles) (user own : Option ℕ) : Prop where
  machine : cpuFields tick.stat = user.map fun n => ⟨n, 0, 0, 0, 0, 0, 0, 0⟩
  own : readSelfCpuJiffies tick.selfStat = own
  fits : ∀ n ∈ user, n < 2 ^ 64

theorem Says.reading {tick : CpuFiles} {user own : Option ℕ}
    (h : Says tick user own) {reading : Reading}
    (hreading : tick.reading = some reading) :
    reading.totals.busy ∈ user ∧ reading.own ∈ own := by
  obtain ⟨htotals, hown⟩ := CpuFiles.reading_eq_some_iff.mp hreading
  rw [readCpuTotals, h.machine, Option.map_map] at htotals
  obtain ⟨n, hn, hbusy⟩ := Option.map_eq_some_iff.mp htotals
  refine ⟨?_, h.own.symm.trans hown⟩
  have hsum : reading.totals.busy = n := by
    rw [← hbusy]
    exact Nat.mod_eq_of_lt (h.fits n hn)
  rw [hsum]
  exact hn

theorem Says.goesOn {first last : CpuFiles} {user user' own own' : Option ℕ}
    (hfirst : Says first user own) (hlast : Says last user' own')
    (huser : ∀ n ∈ user, ∀ n' ∈ user', n ≤ n')
    (hown : ∀ o ∈ own, ∀ o' ∈ own', o ≤ o')
    (hours : ∀ n ∈ user, ∀ n' ∈ user', ∀ o ∈ own, ∀ o' ∈ own',
      o' - o ≤ n' - n) :
    GoesOn first last := by
  constructor
  · intro f l hf hl
    obtain ⟨n, hn, rfl⟩ :=
      Option.map_eq_some_iff.mp (hfirst.machine.symm.trans hf)
    obtain ⟨n', hn', rfl⟩ :=
      Option.map_eq_some_iff.mp (hlast.machine.symm.trans hl)
    exact ⟨huser n hn n' hn', le_rfl, le_rfl, le_rfl, le_rfl, le_rfl, le_rfl,
      le_rfl⟩
  · intro f l hf hl
    exact hown f (hfirst.own.symm.trans hf) l (hlast.own.symm.trans hl)
  · intro f l hf hl
    obtain ⟨hbusy, hf⟩ := hfirst.reading hf
    obtain ⟨hbusy', hl⟩ := hlast.reading hl
    exact hours _ hbusy _ hbusy' _ hf _ hl

theorem Says.sum_lt {tick : CpuFiles} {user own : Option ℕ}
    (h : Says tick user own) {fields : CpuFields}
    (hfields : cpuFields tick.stat = some fields) :
    fields.sum < 2 ^ 64 := by
  obtain ⟨n, hn, rfl⟩ :=
    Option.map_eq_some_iff.mp (h.machine.symm.trans hfields)
  exact h.fits n hn

theorem counting_of_says {t₁ t₂ t₃ : CpuFiles}
    {u₁ u₂ u₃ o₁ o₂ o₃ : Option ℕ}
    (h₁ : Says t₁ u₁ o₁) (h₂ : Says t₂ u₂ o₂) (h₃ : Says t₃ u₃ o₃)
    (h₁₂ : GoesOn t₁ t₂) (h₁₃ : GoesOn t₁ t₃) (h₂₃ : GoesOn t₂ t₃) :
    Counting [t₁, t₂, t₃] := by
  constructor
  · simp [h₁₂, h₁₃, h₂₃]
  · intro tick htick fields hfields
    simp only [List.mem_cons, List.not_mem_nil, or_false] at htick
    rcases htick with rfl | rfl | rfl
    · exact h₁.sum_lt hfields
    · exact h₂.sum_lt hfields
    · exact h₃.sum_lt hfields

theorem counting_steadyTicks : Counting steadyTicks := by
  have h₁ : Says ⟨statAt "100", selfStatAt "0"⟩ (some 100) (some 0) :=
    ⟨rfl, rfl, by decide⟩
  have h₂ : Says ⟨none, selfStatAt "20"⟩ none (some 20) :=
    ⟨rfl, rfl, by decide⟩
  have h₃ : Says ⟨statAt "300", selfStatAt "50"⟩ (some 300) (some 50) :=
    ⟨rfl, rfl, by decide⟩
  exact counting_of_says h₁ h₂ h₃
    (h₁.goesOn h₂ (by decide) (by decide) (by decide))
    (h₁.goesOn h₃ (by decide) (by decide) (by decide))
    (h₂.goesOn h₃ (by decide) (by decide) (by decide))

theorem counting_skippedTicks : Counting skippedTicks := by
  have h₁ : Says ⟨statAt "100", selfStatAt "0"⟩ (some 100) (some 0) :=
    ⟨rfl, rfl, by decide⟩
  have h₂ : Says ⟨statAt "200", none⟩ (some 200) none :=
    ⟨rfl, rfl, by decide⟩
  have h₃ : Says ⟨statAt "300", selfStatAt "50"⟩ (some 300) (some 50) :=
    ⟨rfl, rfl, by decide⟩
  exact counting_of_says h₁ h₂ h₃
    (h₁.goesOn h₂ (by decide) (by decide) (by decide))
    (h₁.goesOn h₃ (by decide) (by decide) (by decide))
    (h₂.goesOn h₃ (by decide) (by decide) (by decide))

theorem continues_steadyTicks {earlier : List CpuFiles} {tick : CpuFiles}
    {later : List CpuFiles} (h : steadyTicks = earlier ++ tick :: later) :
    Continues earlier tick := by
  match earlier, h with
  | [], _ => exact .inl rfl
  | [t₁], h =>
      obtain ⟨rfl, rfl, rfl⟩ : _ ∧ _ ∧ _ := by simpa [steadyTicks] using h
      exact .inr (.inl rfl)
  | [t₁, t₂], h =>
      obtain ⟨rfl, rfl, rfl, rfl⟩ : _ ∧ _ ∧ _ ∧ _ := by
        simpa [steadyTicks] using h
      exact .inr (.inr ⟨⟨statAt "100", selfStatAt "0"⟩,
        ⟨⟨0, 0, 0, 100⟩, 0⟩, ⟨⟨0, 0, 0, 300⟩, 50⟩, rfl, rfl, rfl, by decide⟩)
  | t₁ :: t₂ :: t₃ :: rest, h =>
      have hlength := congrArg List.length h
      simp [steadyTicks] at hlength

namespace TelemetrySampler

theorem reportsIntervals_steadyTicks : ReportsIntervals steadyTicks :=
  reportsIntervals_of_continues counting_steadyTicks
    fun _ _ _ h => continues_steadyTicks h

/-- The machine's jiffies go on from the second tick, the run's own from the
first. -/
theorem sampleCpu_skippedTicks :
    ((run (skippedTicks.take 2)).sampleCpu ⟨statAt "300", selfStatAt "50"⟩ :
      CpuReadings Exact).cpuExternalBusyPct = .fin 50 := by
  have hsample : ((run (skippedTicks.take 2)).sampleCpu
      ⟨statAt "300", selfStatAt "50"⟩ : CpuReadings Exact) =
        cpuReadings ⟨0, 0, 0, 200⟩ ⟨0, 0, 0, 300⟩ (some 50) (some 0) := rfl
  rw [hsample]
  change F64.clamp (pct 50 100) 0.0 100.0 = _
  rw [clamp_pct (by decide) (by decide)]
  norm_num

theorem not_reportsIntervals_skippedTicks :
    Counting skippedTicks ∧ ¬ ReportsIntervals skippedTicks := by
  refine ⟨counting_skippedTicks, fun h => ?_⟩
  have hreports := h (skippedTicks.take 2) ⟨statAt "300", selfStatAt "50"⟩ []
    rfl
  have hne : ((run (skippedTicks.take 2)).sampleCpu
      ⟨statAt "300", selfStatAt "50"⟩ : CpuReadings Exact).cpuExternalBusyPct ≠
        0.0 := by
    rw [sampleCpu_skippedTicks, Exact.zero_eq]
    simp
  obtain ⟨opened, hopened, first, last, hfirst, hlast, hspans⟩ :=
    hreports.external hne
  obtain rfl : (⟨⟨0, 0, 0, 300⟩, 50⟩ : Reading) = last := Option.some.inj hlast
  have hexternal := hspans.external
  rw [sampleCpu_skippedTicks] at hexternal
  simp only [skippedTicks, List.take_succ_cons, List.take_zero, List.mem_cons,
    List.not_mem_nil, or_false] at hopened
  rcases hopened with rfl | rfl
  · obtain rfl : (⟨⟨0, 0, 0, 100⟩, 0⟩ : Reading) = first :=
      Option.some.inj hfirst
    norm_num [CpuTotals.busy] at hexternal
  · exact absurd (CpuFiles.reading_eq_some_iff.mp hfirst).2
      (by simp [readSelfCpuJiffies])

end TelemetrySampler

end Darcbench.Inventory
