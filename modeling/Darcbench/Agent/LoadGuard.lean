import Darcbench.Agent.Watchdog
import Darcbench.Protocol.ParseFloat
import Darcbench.Protocol.Rounding
import Darcbench.Support.Columns

/-!
# The evidence for the load ceiling

The load ceiling reads the CPU figures of the whole machine.  It is armed unless
the run is confined to a part of the machine, which is told from the scope of
the execution and from a comparison of the CPU quota with the number of CPUs.
-/

namespace Darcbench

/-! ## The quota -/

/-- The files in which a control group shows its quota. -/
structure CgroupFiles where
  cpuMax : Option (List Char)
  cfsQuota : Option (List Char)
  cfsPeriod : Option (List Char)

/-- A 64-bit signed number in decimal. -/
def parseI64 (text : List Char) : Option ℤ :=
  let parsed : Option ℤ :=
    match text with
    | '-' :: digits => (F64.parseDigits digits).map fun n => -(n : ℤ)
    | '+' :: digits => (F64.parseDigits digits).map Int.ofNat
    | digits => (F64.parseDigits digits).map Int.ofNat
  parsed.filter fun n => decide (-2 ^ 63 ≤ n) && decide (n < 2 ^ 63)

section

variable {F : Type} [F64 F]

/-- The quota by the files of the first version. -/
def cgroupCpuLimitV1 (files : CgroupFiles) : Option F := do
  let quota ← (files.cfsQuota.map Words.trim).bind parseI64
  let period ← (files.cfsPeriod.map Words.trim).bind parseI64
  if 0 < quota ∧ 0 < period then
    some (F64.ofNat quota.toNat / F64.ofNat period.toNat)
  else
    none

/-- The quota in whole CPUs. -/
def cgroupCpuLimit (files : CgroupFiles) : Option F :=
  match files.cpuMax with
  | none => cgroupCpuLimitV1 files
  | some text =>
      match Words.splitWhitespace text with
      | quota :: period :: _ => do
          let period ← F64.parse period
          if quota = ['m', 'a', 'x'] then
            none
          else do
            let quota ← F64.parse quota
            if (0.0 : F) < period then
              some (quota / period)
            else
              cgroupCpuLimitV1 files
      | _ => none

end

/-- A quota and its period in microseconds.  The kernel keeps both far below
these limits. -/
structure Bandwidth where
  quota : ℕ
  period : ℕ
  quota_pos : 0 < quota
  period_pos : 0 < period
  quota_lt : quota < 2 ^ 53
  period_lt : period < 2 ^ 53

/-- A number as a file shows it. -/
def decimal (n : ℕ) : List Char :=
  Nat.toDigits 10 n

/-- Files that show a quota, in one of the two versions. -/
inductive Bandwidth.ShownBy (bandwidth : Bandwidth) : CgroupFiles → Prop
  | v2 (cfsQuota cfsPeriod : Option (List Char)) :
      bandwidth.ShownBy
        ⟨some (decimal bandwidth.quota ++ ' ' :: decimal bandwidth.period ++
          ['\n']), cfsQuota, cfsPeriod⟩
  | v1 :
      bandwidth.ShownBy
        ⟨none, some (decimal bandwidth.quota ++ ['\n']),
          some (decimal bandwidth.period ++ ['\n'])⟩

/-- The number of CPUs that the standard library reports as available: those of
the affinity mask, or as many as the quota has in full, if these are fewer. -/
def availableParallelism (mask : Finset ℕ) (bandwidth : Bandwidth) : ℕ :=
  min mask.card (max 1 (bandwidth.quota / bandwidth.period))

/-! ## What the run records -/

def Watchdog.disclosures (watchdog : Watchdog) : List String :=
  if watchdog.externalLoadEnforced then
    []
  else
    ["The runtime load ceiling was not enforced: this run is confined to a " ++
      "fraction of the machine `/proc/stat` describes - a container, or a " ++
      "cgroup CPU quota below the host's CPU count - so work by other " ++
      "tenants cannot be told apart from work competing with this run. " ++
      "Nothing here reports on whether the measurement had the CPU to itself."]

/-- The guards that were not enforced, for the record of the run. -/
def guardsNotEnforced (watchdog : Watchdog) (handle : Supervision) :
    List String :=
  watchdog.disclosures ++
    if handle.loadCeilingWasSuspended then
      ["The runtime load ceiling was suspended while the container-based " ++
        "modules ran. Their workload executes in a container this process " ++
        "did not fork, so its CPU cannot be told apart from a competing " ++
        "tenant's, and enforcing the ceiling would have degraded every such " ++
        "module on an idle machine. Nothing here reports on whether those " ++
        "measurements had the CPU to themselves."]
    else
      []

/-- What is known about a host whose quota is shown by some files. -/
def HostView.ofFiles (scope : Scope) (files : CgroupFiles)
    (mask : Finset ℕ) (bandwidth : Bandwidth) : HostView Float where
  scope := scope
  cgroupCpuLimit := Darcbench.cgroupCpuLimit files
  logicalCpus := availableParallelism mask bandwidth

/-! ## Reading the quota -/

theorem isWord_decimal (n : ℕ) : Words.IsWord (decimal n) := by
  refine ⟨Nat.toDigits_ne_nil, fun c hc => ?_⟩
  have hdigit := F64.isDigit_of_mem_toDigits hc
  rw [Char.isDigit, Bool.and_eq_true, decide_eq_true_eq, decide_eq_true_eq,
    ge_iff_le, UInt32.le_iff_toNat_le, UInt32.le_iff_toNat_le] at hdigit
  have hlow : 0x30 ≤ c.toNat := hdigit.1
  have hhigh : c.toNat ≤ 0x39 := hdigit.2
  simp only [Words.isWhiteSpace, Bool.or_eq_false_iff, Bool.and_eq_false_iff,
    decide_eq_false_iff_not, beq_eq_false_iff_ne]
  omega

theorem parseI64_decimal {n : ℕ} (h : n < 2 ^ 63) :
    parseI64 (decimal n) = some (n : ℤ) := by
  obtain ⟨c, rest, hcons, hc⟩ := F64.head_isDigit
    (Nat.toDigits_ne_nil : Nat.toDigits 10 n ≠ [])
    fun _ => F64.isDigit_of_mem_toDigits
  have hsign : ∀ d : Char, d.isDigit = false → c ≠ d := by
    rintro d hd rfl
    rw [hd] at hc
    exact Bool.false_ne_true hc
  have hdigits : F64.parseDigits (c :: rest) = some n :=
    hcons ▸ F64.parseDigits_toDigits n
  have hparsed : parseI64 (decimal n) = (some (n : ℤ)).filter fun n =>
      decide (-2 ^ 63 ≤ n) && decide (n < 2 ^ 63) := by
    rw [decimal, hcons, parseI64]
    · congr 1
      rw [hdigits]
      rfl
    · exact fun _ heq => hsign '-' rfl (List.cons.inj heq).1
    · exact fun _ heq => hsign '+' rfl (List.cons.inj heq).1
  rw [hparsed]
  refine Option.filter_some_pos ?_
  rw [Bool.and_eq_true, decide_eq_true_eq, decide_eq_true_eq]
  omega

section

variable {bandwidth : Bandwidth} {files : CgroupFiles}

/-- The quota that the files show. -/
theorem cgroupCpuLimit_eq (h : bandwidth.ShownBy files) :
    (cgroupCpuLimit files : Option Float) =
      some (F64.ofNat bandwidth.quota / F64.ofNat bandwidth.period) := by
  cases h with
  | v2 cfsQuota cfsPeriod =>
      have hwords : Words.splitWhitespace (decimal bandwidth.quota ++
          ' ' :: decimal bandwidth.period ++ ['\n']) =
            [decimal bandwidth.quota, decimal bandwidth.period] := by
        rw [List.append_assoc, List.cons_append,
          Words.splitWhitespace_append (isWord_decimal _) (by decide),
          Words.splitWhitespace_append (isWord_decimal _) (by decide)]
        rfl
      have hmax : decimal bandwidth.quota ≠ ['m', 'a', 'x'] := by
        intro heq
        have hdigit : 'm' ∈ decimal bandwidth.quota :=
          heq ▸ List.mem_cons_self
        exact absurd (F64.isDigit_of_mem_toDigits hdigit) (by decide)
      have hpos : (0.0 : Float) < F64.ofNat bandwidth.period :=
        F64.zero_lt_of_holds (Rounding.holds_ofNat bandwidth.period_pos
          (bandwidth.period_lt.trans (by norm_num)))
      rw [cgroupCpuLimit]
      dsimp only
      rw [hwords]
      dsimp only
      rw [decimal, F64.parse_toDigits, Option.bind_eq_bind, Option.bind_some,
        if_neg hmax, decimal, F64.parse_toDigits, Option.bind_some,
        if_pos hpos]
  | v1 =>
      have hquota : parseI64 (Words.trim (decimal bandwidth.quota ++
          ['\n'])) = some (bandwidth.quota : ℤ) := by
        rw [Words.trim_append (isWord_decimal _) (by decide)]
        exact parseI64_decimal (bandwidth.quota_lt.trans (by norm_num))
      have hperiod : parseI64 (Words.trim (decimal bandwidth.period ++
          ['\n'])) = some (bandwidth.period : ℤ) := by
        rw [Words.trim_append (isWord_decimal _) (by decide)]
        exact parseI64_decimal (bandwidth.period_lt.trans (by norm_num))
      have hboth : (0 : ℤ) < bandwidth.quota ∧ (0 : ℤ) < bandwidth.period :=
        ⟨mod_cast bandwidth.quota_pos, mod_cast bandwidth.period_pos⟩
      rw [cgroupCpuLimit, cgroupCpuLimitV1, Option.map_some, Option.bind_some,
        hquota, Option.bind_eq_bind, Option.bind_some, Option.map_some,
        Option.bind_some, hperiod, Option.bind_eq_bind, Option.bind_some,
        if_pos hboth, Int.toNat_natCast, Int.toNat_natCast]

/-! ## Comparing the quota with whole CPUs -/

open Rounding in
/-- The quota as a machine number. -/
theorem Bandwidth.holds (bandwidth : Bandwidth) :
    Holds (F64.ofNat bandwidth.quota / F64.ofNat bandwidth.period : Float)
      (rounded ((bandwidth.quota : ℚ) / bandwidth.period)) := by
  have hratio := F64.holds_ratio bandwidth.quota_pos
    (bandwidth.quota_lt.trans (by norm_num)) bandwidth.period_pos
    (bandwidth.period_lt.trans (by norm_num))
  rwa [rounded_natCast bandwidth.quota_pos bandwidth.quota_lt,
    rounded_natCast bandwidth.period_pos bandwidth.period_lt] at hratio

open Rounding in
/-- A quota is not below the whole CPUs that fit into it. -/
theorem Bandwidth.not_lt (bandwidth : Bandwidth) {k : ℕ} (hpos : 0 < k)
    (h : k ≤ bandwidth.quota / bandwidth.period) :
    ¬ (F64.ofNat bandwidth.quota / F64.ofNat bandwidth.period : Float) <
      F64.ofNat k := by
  have hperiod : (0 : ℚ) < bandwidth.period :=
    Nat.cast_pos.mpr bandwidth.period_pos
  have hk : k < 2 ^ 53 :=
    (h.trans (Nat.div_le_self _ _)).trans_lt bandwidth.quota_lt
  have hwhole : Holds (F64.ofNat k : Float) (rounded k) :=
    holds_ofNat hpos (hk.trans (by norm_num))
  refine hwhole.not_below bandwidth.holds ?_
  refine rounded_mono (Nat.cast_pos.mpr hpos) ?_
  rw [le_div_iff₀ hperiod]
  exact_mod_cast (Nat.le_div_iff_mul_le bandwidth.period_pos).mp h

open Rounding in
/-- A quota below its period is below one CPU. -/
theorem Bandwidth.lt_one (bandwidth : Bandwidth)
    (h : bandwidth.quota < bandwidth.period) :
    (F64.ofNat bandwidth.quota / F64.ofNat bandwidth.period : Float) <
      F64.ofNat 1 := by
  have hone : Holds (F64.ofNat 1 : Float) (rounded (1 : ℕ)) :=
    holds_ofNat one_pos (by norm_num)
  refine bandwidth.holds.lt hone ?_
  have hperiod : (0 : ℚ) < bandwidth.period :=
    Nat.cast_pos.mpr bandwidth.period_pos
  have hquota : (0 : ℚ) < bandwidth.quota :=
    Nat.cast_pos.mpr bandwidth.quota_pos
  have hstep : (bandwidth.quota : ℚ) + 1 ≤ bandwidth.period := by
    exact_mod_cast h
  have hlimit : (bandwidth.period : ℚ) ≤ 2 ^ 53 := by
    exact_mod_cast bandwidth.period_lt.le
  have hmost : (bandwidth.quota : ℚ) / bandwidth.period ≤
      ((2 ^ 53 - 1 : ℕ) : ℚ) * 2 ^ (-53 : ℤ) := by
    rw [div_le_iff₀ hperiod]
    norm_num
    linarith
  have hrounded := rounded_mono (div_pos hquota hperiod) hmost
  rw [rounded_mul_two_zpow (by norm_num),
    rounded_natCast (by norm_num) (by norm_num)] at hrounded
  rw [rounded_natCast one_pos (by norm_num)]
  refine hrounded.trans_lt ?_
  norm_num

/-- The load ceiling is armed exactly when the quota is at least one CPU. -/
theorem externalLoadEnforced_ofFiles {scope : Scope}
    (hscope : scope ≠ .container) (hfiles : bandwidth.ShownBy files)
    {mask : Finset ℕ} (hmask : mask.Nonempty) :
    (Watchdog.new (.ofFiles scope files mask bandwidth)
        ).externalLoadEnforced = true ↔
      bandwidth.period ≤ bandwidth.quota := by
  have hcard : 1 ≤ mask.card := hmask.card_pos
  have hmay : (HostView.ofFiles scope files mask bandwidth
      ).procStatMayDescribeTheHost = true ↔
        (F64.ofNat bandwidth.quota / F64.ofNat bandwidth.period : Float) <
          F64.ofNat (availableParallelism mask bandwidth) := by
    rw [HostView.procStatMayDescribeTheHost, HostView.ofFiles,
      cgroupCpuLimit_eq hfiles, beq_false_of_ne hscope, Bool.false_or,
      Option.any_some, Bool.and_eq_true, decide_eq_true_eq,
      decide_eq_true_eq]
    exact and_iff_right (F64.zero_lt_of_holds bandwidth.holds)
  rw [Watchdog.new, Bool.not_eq_true', ← Bool.not_eq_true, hmay]
  constructor
  · intro hnot
    by_contra hlt
    refine hnot ?_
    have hzero : bandwidth.quota / bandwidth.period = 0 :=
      Nat.div_eq_of_lt (not_le.mp hlt)
    have hcpus : availableParallelism mask bandwidth = 1 := by
      rw [availableParallelism, hzero]
      exact min_eq_right hcard
    rw [hcpus]
    exact bandwidth.lt_one (not_le.mp hlt)
  · intro hle
    have hone : 1 ≤ bandwidth.quota / bandwidth.period :=
      (Nat.one_le_div_iff bandwidth.period_pos).mpr hle
    have hcpus : availableParallelism mask bandwidth ≤
        bandwidth.quota / bandwidth.period := by
      rw [availableParallelism, max_eq_right hone]
      exact min_le_right _ _
    have hpos : 0 < availableParallelism mask bandwidth :=
      lt_min hcard (lt_max_of_lt_left one_pos)
    exact bandwidth.not_lt hpos hcpus

end

/-! ## The evidence -/

/-- The load ceiling is not enforced, and the record of the run says so. -/
structure Watchdog.Withholds (watchdog : Watchdog) : Prop where
  not_enforced : watchdog.externalLoadEnforced = false
  recorded : ∀ handle : Supervision, ∃ text ∈ watchdog.disclosures,
    text ∈ guardsNotEnforced watchdog handle

theorem Watchdog.withholds_iff (watchdog : Watchdog) :
    watchdog.Withholds ↔ watchdog.externalLoadEnforced = false := by
  refine ⟨fun h => h.not_enforced, fun h => ⟨h, fun handle => ?_⟩⟩
  have hdisclosures : watchdog.disclosures ≠ [] := by
    rw [Watchdog.disclosures, h, if_neg Bool.false_ne_true]
    exact List.cons_ne_nil _ _
  obtain ⟨text, htext⟩ := List.exists_mem_of_ne_nil _ hdisclosures
  exact ⟨text, htext, List.mem_append_left _ htext⟩

/-- A run whose quota is below the CPUs that are counted withholds the load
ceiling exactly when a quota below these CPUs is below one CPU. -/
theorem withholds_iff_of_quota_lt {scope : Scope} {bandwidth : Bandwidth}
    {files : CgroupFiles} {mask : Finset ℕ} (hscope : scope ≠ .container)
    (hfiles : bandwidth.ShownBy files) (hmask : mask.Nonempty) (cpus : ℕ) :
    (bandwidth.quota < cpus * bandwidth.period →
        (Watchdog.new (.ofFiles scope files mask bandwidth)).Withholds) ↔
      (bandwidth.quota < cpus * bandwidth.period →
        bandwidth.quota < bandwidth.period) := by
  rw [Watchdog.withholds_iff, ← Bool.not_eq_true,
    externalLoadEnforced_ofFiles hscope hfiles hmask, not_le]

/-- Half of one CPU, in 100 milliseconds. -/
def halfCpu : Bandwidth where
  quota := 50000
  period := 100000
  quota_pos := by norm_num
  period_pos := by norm_num
  quota_lt := by norm_num
  period_lt := by norm_num

/-- Two CPUs, in 100 milliseconds. -/
def twoCpus : Bandwidth where
  quota := 200000
  period := 100000
  quota_pos := by norm_num
  period_pos := by norm_num
  quota_lt := by norm_num
  period_lt := by norm_num

/-- Files of the second version that show a quota. -/
def Bandwidth.files (bandwidth : Bandwidth) : CgroupFiles :=
  ⟨some (decimal bandwidth.quota ++ ' ' :: decimal bandwidth.period ++
    ['\n']), none, none⟩

theorem withholds_halfCpu :
    (Watchdog.new (.ofFiles .bareMetal halfCpu.files (Finset.range 8)
      halfCpu)).Withholds :=
  (withholds_iff_of_quota_lt (by decide) (.v2 none none)
    (Finset.nonempty_range_iff.mpr (by decide)) 8).mpr
      (fun _ => by decide) (by decide)

/-- Two of eight CPUs, and the ceiling is armed. -/
theorem not_withholds_twoCpus :
    twoCpus.quota < 8 * twoCpus.period ∧
      (Watchdog.new (.ofFiles .bareMetal twoCpus.files (Finset.range 8)
        twoCpus)).externalLoadEnforced = true ∧
      ¬ (Watchdog.new (.ofFiles .bareMetal twoCpus.files (Finset.range 8)
        twoCpus)).Withholds := by
  have henforced : (Watchdog.new (.ofFiles .bareMetal twoCpus.files
      (Finset.range 8) twoCpus)).externalLoadEnforced = true :=
    (externalLoadEnforced_ofFiles (by decide) (.v2 none none)
      (Finset.nonempty_range_iff.mpr (by decide))).mpr (by decide)
  refine ⟨by decide, henforced, fun h => ?_⟩
  rw [h.not_enforced] at henforced
  exact Bool.false_ne_true henforced

end Darcbench
