import Darcbench.Agent.Endurance
import Darcbench.Agent.RunIndex
import Darcbench.Modules.WebOrigin
import Darcbench.Protocol.Display
import Darcbench.Protocol.Events
import Darcbench.Protocol.Rounding
import Mathlib.Order.Basic

/-!
# Preflight

Before a run starts, the agent looks at the machine and at the selected modules,
shows what the run will cost and how disruptive it is, and refuses it when a
blocking condition is present.
-/

namespace Darcbench

namespace Preflight

/-! ## The input -/

/-- How invasive a module is, from the least to the most. -/
inductive SafetyClass where
  | observational
  | computeIntensive
  | writesTemporaryFiles
  | usesNetwork
  | provisionsServices
  deriving DecidableEq

def SafetyClass.rank : SafetyClass → ℕ
  | observational => 0
  | computeIntensive => 1
  | writesTemporaryFiles => 2
  | usesNetwork => 3
  | provisionsServices => 4

theorem SafetyClass.rank_injective : Function.Injective rank := by
  intro a b h
  cases a <;> cases b <;> first | rfl | cases h

instance : LinearOrder SafetyClass :=
  LinearOrder.lift' SafetyClass.rank SafetyClass.rank_injective

end Preflight

def RiskClass.rank : RiskClass → ℕ
  | safe => 0
  | moderateLoad => 1
  | heavyLoad => 2
  | productionRisk => 3
  | unsupported => 4

theorem RiskClass.rank_injective : Function.Injective rank := by
  intro a b h
  cases a <;> cases b <;> first | rfl | cases h

instance : LinearOrder RiskClass :=
  LinearOrder.lift' RiskClass.rank RiskClass.rank_injective

namespace Preflight

/-- What a module declares about itself. -/
structure ModuleManifest where
  id : ModuleId
  safetyClass : SafetyClass
  dependencies : List String
  maxBytesWritten : ℕ
  maxNetworkBytes : ℕ

/-- A module of the registry, with what it expects to cost. -/
structure RegisteredModule (Params : Type) where
  manifest : ModuleManifest
  estimatedDurationS : Params → ℕ
  estimatedPeakMemoryBytes : Params → ℕ
  estimatedWriteVolumeBytes : Params → ℕ

def RegisteredModule.cost {Params : Type}
    (module : RegisteredModule Params) (params : Params) : ModuleCost where
  estimatedDurationS := module.estimatedDurationS params
  maxBytesWritten := module.manifest.maxBytesWritten
  maxNetworkBytes := module.manifest.maxNetworkBytes
  estimatedPeakMemoryBytes := module.estimatedPeakMemoryBytes params
  estimatedWriteVolumeBytes := module.estimatedWriteVolumeBytes params

structure Input (F Params : Type) where
  inventory : Inventory F
  registry : ModuleId → Option (RegisteredModule Params)
  modules : List ModuleId
  profile : Profile
  params : Params
  /-- The free space of the file system of the state directory, if it could be
  determined. -/
  freeBytes : Option ℕ
  force : Bool
  /-- In nanoseconds. -/
  cycleTarget : Option ℕ

/-! ## The checks -/

def minFreeBytes : ℕ := 2 * 1024 * 1024 * 1024

section

variable {F : Type} [F64 F] {Params : Type}

def busyLoadPerCpu : F := 0.70

def memoryDiscloseShare : F := 0.10

def memoryBlockShare : F := 0.60

def divCeil (n d : ℕ) : ℕ :=
  (n + d - 1) / d

def selectionFindings (input : Input F Params) : List PreflightFinding :=
  if input.modules.isEmpty then
    [{ check := "modules.selected"
       severity := .error
       message := s!"Profile `{input.profile.asStr}` resolves to no " ++
        "implemented modules in this build. See docs/ROADMAP.md for which " ++
        "profiles are complete."
       blocking := true }]
  else []

def moduleFindings (input : Input F Params) (id : ModuleId) :
    List PreflightFinding :=
  match input.registry id with
  | none =>
      [{ check := "modules.known"
         severity := .error
         message := s!"Module `{id.asStr}` is not in this agent's allow-list."
         blocking := true }]
  | some module =>
      module.manifest.dependencies.map fun dependency =>
        { check := "modules.dependencies"
          severity := .info
          message := s!"`{module.manifest.id.asStr}` requires {dependency}"
          blocking := false }

/-- The selected modules that the registry knows. -/
def known (input : Input F Params) : List (RegisteredModule Params) :=
  input.modules.filterMap input.registry

/-- The cost of one pass. -/
def once (input : Input F Params) : Estimate :=
  Estimate.ofModules ((known input).map fun module =>
    module.cost input.params)

def maxSafety (input : Input F Params) : SafetyClass :=
  (known input).foldl (fun most module => max most module.manifest.safetyClass)
    .observational

def durationFindings (cycleTarget : Option ℕ) (cycles : ℕ) :
    List PreflightFinding :=
  match cycleTarget with
  | none => []
  | some target =>
      [{ check := "run.duration"
         severity := .warning
         message := s!"This is a {target / 10 ^ 9 / 60}-minute run. The " ++
          s!"module set repeats in roughly {cycles} cycles so that a " ++
          "decline appearing after half an hour is visible at all - which " ++
          "is the whole point of the profile, and the reason a short " ++
          "benchmark of a burstable instance measures its credit balance " ++
          "rather than the instance. The machine will be under full load " ++
          "for the entire time. Cancel at any point and the cycles " ++
          "completed so far are kept."
         blocking := false }]

def freeSpaceFindings (freeBytes : Option ℕ) (bytesWritten : ℕ) :
    List PreflightFinding :=
  match freeBytes with
  | some free =>
      let required := min (bytesWritten + minFreeBytes) u64Max
      if free < required then
        [{ check := "storage.free_space"
           severity := .error
           message := s!"{free / 2 ^ 30} GiB free where " ++
            s!"{required / 2 ^ 30} GiB is required (estimated writes plus " ++
            s!"a {minFreeBytes / 2 ^ 30} GiB safety margin). Refusing to " ++
            "risk filling the filesystem."
           blocking := true }]
      else []
  | none =>
      if 0 < bytesWritten then
        [{ check := "storage.free_space"
           severity := .error
           message := "Free space could not be determined, and the selected " ++
            "modules write to disk. Unknown is treated as unsafe."
           blocking := true }]
      else []

def wearFindings (writeVolumeBytes : ℕ) : List PreflightFinding :=
  if 0 < writeVolumeBytes then
    [{ check := "storage.wear"
       severity := .warning
       message := "This run will write about " ++
        s!"{divCeil writeVolumeBytes (2 ^ 30)} GiB in total. On flash " ++
        "storage that is endurance spent permanently, and on a consumer " ++
        "SSD a run like this is a measurable fraction of a day's normal " ++
        "writes. Files are created only under the DARCBench state " ++
        "directory and removed when the run ends."
       blocking := false }]
  else []

/-- The operators of the endpoints, sorted and without repetitions. -/
def operators : List String :=
  ["Cloudflare", "Google Public DNS", "Quad9"]

def egressFindings (networkBytes : ℕ) : List PreflightFinding :=
  if 0 < networkBytes then
    [{ check := "network.egress"
       severity := .warning
       message := "This run will transfer up to " ++
        s!"{divCeil networkBytes (2 ^ 20)} MiB to and from third-party " ++
        "measurement endpoints (" ++ ", ".intercalate operators ++
        "). Those hosts are a compile-time allow-list - DARCBench cannot " ++
        "be pointed at any other address - and no measurement result, " ++
        "inventory or identifier is sent to them. Skip with the `quick` " ++
        "profile, which makes no outbound connection."
       blocking := false }]
  else []

def cpus (inventory : Inventory F) : F :=
  F64.ofNat (max inventory.cpu.logicalCpus 1)

section

variable [F64.Display F]

def loadFindings (inventory : Inventory F) : List PreflightFinding :=
  match inventory.platform.load1 with
  | none => []
  | some load1 =>
      let perCpu := load1 / cpus inventory
      if busyLoadPerCpu < perCpu then
        [{ check := "system.load"
           severity := .warning
           message := s!"Load average is {F64.Display.fixed 2 load1} across " ++
            s!"{F64.Display.fixed 0 (cpus inventory)} CPU(s) " ++
            s!"({F64.Display.fixed 2 perCpu} per CPU). Results will " ++
            "reflect the competing work, not the hardware."
           blocking := false }]
      else []

def governorFindings (inventory : Inventory F) : List PreflightFinding :=
  match inventory.cpu.governor with
  | none => []
  | some governor =>
      if WebOrigin.eqIgnoreAsciiCase governor.toList
          "performance".toList then []
      else
        [{ check := "cpu.governor"
           severity := .warning
           message := s!"CPU frequency governor is `{governor}`, not " ++
            "`performance`. Every workload                      here runs " ++
            "in bursts, so a governor that ramps clocks on demand measures " ++
            "its                      own reaction time along with the " ++
            "hardware - and does so differently on each                      " ++
            "run. Set it with `cpupower frequency-set -g performance` " ++
            "before a result                      you intend to compare."
           blocking := false }]

def productionFindings (inventory : Inventory F) : List PreflightFinding :=
  if inventory.software.productionLikelihood = .likely then
    [{ check := "system.production"
       severity := .warning
       message := "This machine looks like it is serving live traffic (" ++
        "; ".intercalate inventory.software.productionSignals ++
        "). A CPU-saturating benchmark will degrade it for the duration of " ++
        "the run."
       blocking := false }]
  else []

/-- The share of the available memory that the modules will hold. -/
def memoryShare (availableBytes peakMemoryBytes : ℕ) : F :=
  if 0 < availableBytes then
    F64.ofNat peakMemoryBytes / F64.ofNat availableBytes
  else 1.0

def memoryFindings (inventory : Inventory F) (peakMemoryBytes : ℕ) :
    List PreflightFinding :=
  if 0 < peakMemoryBytes then
    let available := inventory.memory.availableBytes
    let share : F := memoryShare available peakMemoryBytes
    let overCeiling := decide (memoryBlockShare < share)
    if memoryDiscloseShare < share then
      [{ check := "memory.allocation"
         severity := if overCeiling then .error else .warning
         message := "The selected modules will hold up to " ++
          s!"{peakMemoryBytes / 2 ^ 20} MiB at once, " ++
          s!"{F64.Display.fixed 0 (share * 100.0)}% of the " ++
          s!"{available / 2 ^ 20} MiB currently available. " ++
          (if overCeiling then
            "Refusing: this risks pushing the machine into reclaim, which " ++
            "would both disrupt it and make the result describe swap."
          else "The memory is released when the run finishes.")
         blocking := overCeiling }]
    else []
  else []

def swapFindings (inventory : Inventory F) : List PreflightFinding :=
  let memory := inventory.memory
  if memory.totalBytes / 10 < memory.swapTotalBytes - memory.swapFreeBytes then
    [{ check := "memory.swap"
       severity := .warning
       message := "The machine is already swapping. Memory-sensitive " ++
        "results will be dominated by paging."
       blocking := false }]
  else []

def scopeFindings (inventory : Inventory F) : List PreflightFinding :=
  if inventory.platform.scope = .container then
    [{ check := "environment.scope"
       severity := .warning
       message := "Running inside a container. Results describe this " ++
        "container's limits, not the host, and will be labelled " ++
        "container-scoped."
       blocking := false }]
  else []

def cgroupFindings (inventory : Inventory F) : List PreflightFinding :=
  match inventory.platform.cgroupCpuLimit with
  | none => []
  | some limit =>
      if limit < cpus inventory then
        [{ check := "environment.cgroup_cpu"
           severity := .warning
           message := "A cgroup CPU limit of " ++
            s!"{F64.Display.fixed 2 limit} CPU(s) is in effect while " ++
            s!"{F64.Display.fixed 0 (cpus inventory)} are visible. " ++
            "Multi-core results will be capped by the limit, not the " ++
            "hardware."
           blocking := false }]
      else []

def stackFindings (inventory : Inventory F) : List PreflightFinding :=
  if inventory.storage.complexStack then
    [{ check := "storage.stack"
       severity := .info
       message := "Storage stack: " ++
        "; ".intercalate inventory.storage.stackIndicators ++
        ". Recorded alongside any storage result."
       blocking := false }]
  else []

def privilegeFindings (inventory : Inventory F) : List PreflightFinding :=
  if inventory.platform.runningAsRoot then
    [{ check := "process.privileges"
       severity := .info
       message := "Running as root. DARCBench does not need root for the " ++
        "modules in this build; consider running as an unprivileged user."
       blocking := false }]
  else []

end

/-! ## The verdict -/

/-- The risk of a selection by itself. -/
def baseRisk : SafetyClass → RiskClass
  | .observational => .safe
  | .computeIntensive | .writesTemporaryFiles | .usesNetwork
  | .provisionsServices => .heavyLoad

def classify (maxSafety : SafetyClass) (production : ProductionLikelihood)
    (inventory : Inventory F) : RiskClass :=
  if production = .likely ∧ SafetyClass.observational < maxSafety then
    .productionRisk
  else if inventory.platform.load1.any
      fun load1 => decide (2.0 < load1 / cpus inventory) then
    .productionRisk
  else baseRisk maxSafety

variable [F64.Display F]

def findings (input : Input F Params) : List PreflightFinding :=
  let inventory := input.inventory
  let cycles := cycles input.cycleTarget (once input).durationS
  let estimate := (once input).times cycles
  selectionFindings input ++
    input.modules.flatMap (moduleFindings input) ++
    durationFindings input.cycleTarget cycles ++
    freeSpaceFindings input.freeBytes estimate.bytesWritten ++
    wearFindings estimate.writeVolumeBytes ++
    egressFindings estimate.networkBytes ++
    loadFindings inventory ++
    governorFindings inventory ++
    productionFindings inventory ++
    memoryFindings inventory estimate.peakMemoryBytes ++
    swapFindings inventory ++
    scopeFindings inventory ++
    cgroupFindings inventory ++
    stackFindings inventory ++
    privilegeFindings inventory

/-- Runs every preflight check. -/
def run (input : Input F Params) : PreflightCompleted :=
  let estimate :=
    (once input).times (cycles input.cycleTarget (once input).durationS)
  let findings := findings input
  let risk := classify (maxSafety input)
    input.inventory.software.productionLikelihood input.inventory
  let blockingPresent := findings.any PreflightFinding.blocking
  let warningsPresent := findings.any fun f => f.severity = .warning
  { risk := risk
    passed := !blockingPresent &&
      (input.force || !warningsPresent || decide (risk < .productionRisk))
    findings := findings
    estimatedDurationS := estimate.durationS
    estimatedBytesWritten := estimate.bytesWritten
    estimatedNetworkBytes := estimate.networkBytes
    estimatedPeakMemoryBytes := estimate.peakMemoryBytes
    estimatedWriteVolumeBytes := estimate.writeVolumeBytes }

end

/-! ## Costs -/

instance : Preorder Estimate :=
  Preorder.lift fun estimate =>
    (estimate.durationS, estimate.bytesWritten, estimate.networkBytes,
      estimate.peakMemoryBytes, estimate.writeVolumeBytes)

namespace Estimate

theorem le_iff {a b : Estimate} :
    a ≤ b ↔ a.durationS ≤ b.durationS ∧ a.bytesWritten ≤ b.bytesWritten ∧
      a.networkBytes ≤ b.networkBytes ∧
      a.peakMemoryBytes ≤ b.peakMemoryBytes ∧
      a.writeVolumeBytes ≤ b.writeVolumeBytes :=
  Iff.rfl

theorem le_add (estimate : Estimate) (module : ModuleCost) :
    estimate ≤ estimate.add module := by
  rw [le_iff, add]
  dsimp only
  omega

theorem add_le_add {a b : Estimate} (h : a ≤ b) (module : ModuleCost) :
    a.add module ≤ b.add module := by
  rw [le_iff] at h ⊢
  simp only [add]
  omega

theorem add_right_comm (estimate : Estimate) (m n : ModuleCost) :
    (estimate.add m).add n = (estimate.add n).add m := by
  simp only [add, mk.injEq]
  omega

theorem ofModules_le {fewer more : List ModuleCost} (h : fewer.Subperm more) :
    ofModules fewer ≤ ofModules more :=
  foldl_le_foldl_of_subperm add_right_comm (fun hab m => add_le_add hab m)
    le_add h zero

/-- What adds up over the cycles is positive after them if it was before. -/
theorem saturatingMul_pos {n cycles : ℕ} (hcycles : 0 < cycles) :
    0 < saturatingMul n cycles ↔ 0 < n := by
  have hmax : 0 < u64Max := by
    decide
  rw [saturatingMul, lt_min_iff]
  constructor
  · rintro ⟨h, -⟩
    exact Nat.pos_of_mul_pos_right h
  · intro h
    exact ⟨Nat.mul_pos h hcycles, hmax⟩

end Estimate

theorem cycles_pos (cycleTarget : Option ℕ) (durationS : ℕ) :
    0 < cycles cycleTarget durationS := by
  have hmin : 0 < Cycling.minEnduranceCycles := by
    decide
  cases cycleTarget with
  | none => exact Nat.one_pos
  | some target =>
      rw [cycles]
      split
      · exact lt_max_of_lt_right hmin
      · exact hmin

/-! ## Findings that refuse a run -/

/-- Whatever refuses a run among these findings is matched among those. -/
structure Covered (fewer more : List PreflightFinding) : Prop where
  blocking : ∀ f ∈ fewer, f.blocking = true →
    ∃ g ∈ more, g.blocking = true ∧ g.check = f.check
  warning : ∀ f ∈ fewer, f.severity = .warning →
    ∃ g ∈ more, g.blocking = true ∨ g.severity = .warning

namespace Covered

theorem refl (findings : List PreflightFinding) :
    Covered findings findings where
  blocking f hf hblocking := ⟨f, hf, hblocking, rfl⟩
  warning f hf hwarning := ⟨f, hf, .inr hwarning⟩

theorem append {a b c d : List PreflightFinding}
    (hac : Covered a c) (hbd : Covered b d) : Covered (a ++ b) (c ++ d) where
  blocking f hf hblocking := by
    rcases List.mem_append.mp hf with hf | hf
    · obtain ⟨g, hg, h⟩ := hac.blocking f hf hblocking
      exact ⟨g, List.mem_append_left d hg, h⟩
    · obtain ⟨g, hg, h⟩ := hbd.blocking f hf hblocking
      exact ⟨g, List.mem_append_right c hg, h⟩
  warning f hf hwarning := by
    rcases List.mem_append.mp hf with hf | hf
    · obtain ⟨g, hg, h⟩ := hac.warning f hf hwarning
      exact ⟨g, List.mem_append_left d hg, h⟩
    · obtain ⟨g, hg, h⟩ := hbd.warning f hf hwarning
      exact ⟨g, List.mem_append_right c hg, h⟩

/-- Findings that neither block nor warn. -/
theorem of_harmless {fewer : List PreflightFinding}
    (h : ∀ f ∈ fewer, f.blocking = false ∧ f.severity ≠ .warning)
    (more : List PreflightFinding) : Covered fewer more where
  blocking f hf hblocking :=
    absurd (hblocking.symm.trans (h f hf).1) (by decide)
  warning f hf hwarning := absurd hwarning (h f hf).2

theorem nil (more : List PreflightFinding) : Covered [] more :=
  of_harmless (List.forall_mem_nil _) more

theorem single {f g : PreflightFinding}
    (hblocking : f.blocking = true → g.blocking = true ∧ g.check = f.check)
    (hwarning : f.severity = .warning →
      g.blocking = true ∨ g.severity = .warning) : Covered [f] [g] where
  blocking f' hf' h := by
    rw [List.mem_singleton.mp hf'] at h ⊢
    exact ⟨g, List.mem_singleton_self g, hblocking h⟩
  warning f' hf' h := by
    rw [List.mem_singleton.mp hf'] at h
    exact ⟨g, List.mem_singleton_self g, hwarning h⟩

/-- A finding that is made under a weaker condition. -/
theorem ite {p q : Prop} [Decidable p] [Decidable q]
    {f g : PreflightFinding} (hpq : p → q)
    (hblocking : f.blocking = true → g.blocking = true ∧ g.check = f.check)
    (hwarning : f.severity = .warning →
      g.blocking = true ∨ g.severity = .warning) :
    Covered (if p then [f] else []) (if q then [g] else []) := by
  by_cases hp : p
  · rw [if_pos hp, if_pos (hpq hp)]
    exact single hblocking hwarning
  · rw [if_neg hp]
    exact nil _

end Covered

theorem durationFindings_covered (cycleTarget : Option ℕ) (m n : ℕ) :
    Covered (durationFindings cycleTarget m)
      (durationFindings cycleTarget n) := by
  cases cycleTarget with
  | none => exact .refl _
  | some target => exact .single nofun fun _ => .inr rfl

theorem freeSpaceFindings_covered (freeBytes : Option ℕ) {m n : ℕ}
    (h : m ≤ n) :
    Covered (freeSpaceFindings freeBytes m)
      (freeSpaceFindings freeBytes n) := by
  cases freeBytes with
  | none => exact .ite (fun hm => hm.trans_le h) (fun _ => ⟨rfl, rfl⟩) nofun
  | some free =>
      have hrequired : min (m + minFreeBytes) u64Max ≤
          min (n + minFreeBytes) u64Max :=
        min_le_min_right u64Max (Nat.add_le_add_right h minFreeBytes)
      simp only [freeSpaceFindings]
      exact .ite (fun hm => hm.trans_le hrequired) (fun _ => ⟨rfl, rfl⟩) nofun

theorem wearFindings_covered {m n : ℕ} (h : 0 < m → 0 < n) :
    Covered (wearFindings m) (wearFindings n) :=
  .ite h nofun fun _ => .inr rfl

theorem egressFindings_covered {m n : ℕ} (h : 0 < m → 0 < n) :
    Covered (egressFindings m) (egressFindings n) :=
  .ite h nofun fun _ => .inr rfl

/-! ## Shares of the memory -/

section

variable {F : Type} [F64 F] {Params : Type} [F64.MonotoneRatio F]

theorem lt_memoryShare {c : F} {available m n : ℕ}
    (havailable : available < 2 ^ 64) (hn : n < 2 ^ 64) (h : m ≤ n)
    (hlt : c < memoryShare available m) : c < memoryShare available n := by
  rw [memoryShare] at hlt ⊢
  by_cases hpos : 0 < available
  · rw [if_pos hpos] at hlt ⊢
    exact F64.MonotoneRatio.ratio_mono c m n available h hn hpos havailable
      hlt
  · rw [if_neg hpos] at hlt ⊢
    exact hlt

variable [F64.Display F]

theorem memoryFindings_covered {inventory : Inventory F} {m n : ℕ}
    (havailable : inventory.memory.availableBytes < 2 ^ 64)
    (hn : n < 2 ^ 64) (h : m ≤ n) :
    Covered (memoryFindings inventory m) (memoryFindings inventory n) := by
  have hblock : memoryBlockShare <
      (memoryShare inventory.memory.availableBytes m : F) →
        memoryBlockShare <
          (memoryShare inventory.memory.availableBytes n : F) :=
    lt_memoryShare havailable hn h
  rw [memoryFindings, memoryFindings]
  by_cases hm : 0 < m
  · rw [if_pos hm, if_pos (hm.trans_le h)]
    refine .ite (lt_memoryShare havailable hn h) ?_ ?_
    · intro hblocking
      exact ⟨decide_eq_true (hblock (of_decide_eq_true hblocking)), rfl⟩
    · intro _
      by_cases hover : memoryBlockShare <
          (memoryShare inventory.memory.availableBytes n : F)
      · exact .inl (decide_eq_true hover)
      · right
        dsimp only
        rw [decide_eq_false hover]
        rfl
  · rw [if_neg hm]
    exact .nil _

end

/-! ## Asking for more -/

section

variable {F Params : Type}

/-- The input with another selection. -/
def Input.select (input : Input F Params) (modules : List ModuleId) :
    Input F Params :=
  { input with modules := modules }

/-- The sizes are 64-bit integers, and no sum of costs overflows. -/
structure Input.Fits (input : Input F Params) : Prop where
  available : input.inventory.memory.availableBytes < 2 ^ 64
  duration : (once input).durationS < 2 ^ 64
  bytesWritten : (once input).bytesWritten < 2 ^ 64
  networkBytes : (once input).networkBytes < 2 ^ 64
  peakMemory : (once input).peakMemoryBytes < 2 ^ 64
  writeVolume : (once input).writeVolumeBytes < 2 ^ 64

theorem known_subperm (input : Input F Params) {fewer more : List ModuleId}
    (h : fewer.Subperm more) :
    (known (input.select fewer)).Subperm (known (input.select more)) := by
  obtain ⟨between, hperm, hsub⟩ := h
  exact ⟨between.filterMap input.registry, hperm.filterMap _,
    hsub.filterMap _⟩

theorem once_le (input : Input F Params) {fewer more : List ModuleId}
    (h : fewer.Subperm more) :
    once (input.select fewer) ≤ once (input.select more) := by
  obtain ⟨between, hperm, hsub⟩ := known_subperm input h
  exact Estimate.ofModules_le ⟨_, hperm.map _, hsub.map _⟩

theorem maxSafety_le (input : Input F Params) {fewer more : List ModuleId}
    (h : fewer.Subperm more) :
    maxSafety (input.select fewer) ≤ maxSafety (input.select more) := by
  refine foldl_le_foldl_of_subperm ?_ ?_ ?_ (known_subperm input h) _
  · intro most m n
    exact max_right_comm _ _ _
  · intro most more hle m
    exact max_le_max_right _ hle
  · intro most m
    exact le_max_left _ _

theorem moduleFindings_covered (input : Input F Params)
    {fewer : List ModuleId}
    (h : ∀ id ∈ fewer, (input.registry id).isSome = true)
    (more : List PreflightFinding) :
    Covered (fewer.flatMap (moduleFindings input)) more := by
  refine .of_harmless ?_ more
  intro f hf
  obtain ⟨id, hid, hf⟩ := List.mem_flatMap.mp hf
  obtain ⟨module, hmodule⟩ := Option.isSome_iff_exists.mp (h id hid)
  rw [moduleFindings, hmodule] at hf
  obtain ⟨dependency, -, rfl⟩ := List.mem_map.mp hf
  exact ⟨rfl, nofun⟩

theorem baseRisk_le (a : SafetyClass) : baseRisk a ≤ .productionRisk := by
  cases a <;> decide

theorem baseRisk_mono {a b : SafetyClass} (h : a ≤ b) :
    baseRisk a ≤ baseRisk b := by
  cases a <;> cases b <;> first | decide | exact absurd h (by decide)

variable [F64 F]

/-- A more invasive selection is never shown as less risky. -/
theorem classify_mono {a b : SafetyClass} (h : a ≤ b)
    (production : ProductionLikelihood) (inventory : Inventory F) :
    classify a production inventory ≤ classify b production inventory := by
  rw [classify, classify]
  by_cases hb : production = .likely ∧ SafetyClass.observational < b
  · rw [if_pos hb]
    split
    · exact le_rfl
    · split
      · exact le_rfl
      · exact baseRisk_le a
  · have ha : ¬ (production = .likely ∧ SafetyClass.observational < a) :=
      fun ha => hb ⟨ha.1, ha.2.trans_le h⟩
    rw [if_neg ha, if_neg hb]
    split
    · exact le_rfl
    · exact baseRisk_mono h

variable [F64.Display F] [F64.MonotoneRatio F]

/-- Every check that speaks against a selection speaks against a larger one. -/
theorem findings_covered (input : Input F Params)
    {fewer more : List ModuleId} (hne : fewer ≠ [])
    (hknown : ∀ id ∈ more, (input.registry id).isSome = true)
    (hfits : (input.select more).Fits) (h : fewer.Subperm more) :
    Covered (findings (input.select fewer)) (findings (input.select more)) := by
  obtain ⟨-, hwritten, hnetwork, hpeak, hvolume⟩ :=
    Estimate.le_iff.mp (once_le input h)
  have hselection : selectionFindings (input.select fewer) = [] :=
    if_neg (by simpa [Input.select] using hne)
  have hpositive : ∀ {m n c d : ℕ}, m ≤ n → 0 < c → 0 < d →
      0 < Estimate.saturatingMul m c → 0 < Estimate.saturatingMul n d := by
    intro m n c d hle hc hd hm
    exact (Estimate.saturatingMul_pos hd).mpr
      (((Estimate.saturatingMul_pos hc).mp hm).trans_le hle)
  have hfewer := cycles_pos input.cycleTarget
    (once (input.select fewer)).durationS
  have hmore := cycles_pos input.cycleTarget
    (once (input.select more)).durationS
  refine ((((((((((((((?_ : Covered _ _).append ?_).append ?_).append
    ?_).append ?_).append ?_).append (.refl _)).append (.refl _)).append
    (.refl _)).append ?_).append (.refl _)).append (.refl _)).append
    (.refl _)).append (.refl _)).append (.refl _)
  · rw [hselection]
    exact .nil _
  · exact moduleFindings_covered _
      (fun id hid => hknown id (h.subset hid)) _
  · exact durationFindings_covered _ _ _
  · exact freeSpaceFindings_covered _ hwritten
  · exact wearFindings_covered (hpositive hvolume hfewer hmore)
  · exact egressFindings_covered (hpositive hnetwork hfewer hmore)
  · exact memoryFindings_covered hfits.available hfits.peakMemory hpeak

/-- What is disclosed and decided for a larger selection. -/
structure AsksForMore (fewer more : PreflightCompleted) : Prop where
  risk : fewer.risk ≤ more.risk
  peakMemory :
    fewer.estimatedPeakMemoryBytes ≤ more.estimatedPeakMemoryBytes
  bytesWritten : fewer.estimatedBytesWritten ≤ more.estimatedBytesWritten
  blocking : ∀ f ∈ fewer.findings, f.blocking = true →
    ∃ g ∈ more.findings, g.blocking = true ∧ g.check = f.check
  refused : fewer.passed = false → more.passed = false

/-- What a run that does not repeat its modules adds to it. -/
structure CostsMore (fewer more : PreflightCompleted) : Prop where
  duration : fewer.estimatedDurationS ≤ more.estimatedDurationS
  networkBytes : fewer.estimatedNetworkBytes ≤ more.estimatedNetworkBytes
  writeVolume :
    fewer.estimatedWriteVolumeBytes ≤ more.estimatedWriteVolumeBytes

omit [F64.MonotoneRatio F] in
/-- A run is refused for a blocking finding, or for a warning that nobody
overrides on a machine at risk. -/
theorem passed_eq_false_iff (input : Input F Params) :
    (run input).passed = false ↔
      (∃ f ∈ (run input).findings, f.blocking = true) ∨
        input.force = false ∧
          (∃ f ∈ (run input).findings, f.severity = .warning) ∧
          RiskClass.productionRisk ≤ (run input).risk := by
  have hrisk : decide ((run input).risk < .productionRisk) = false ↔
      RiskClass.productionRisk ≤ (run input).risk :=
    decide_eq_false_iff_not.trans not_lt
  rw [← hrisk]
  simp only [run, Bool.and_eq_false_iff, Bool.or_eq_false_iff,
    Bool.not_eq_false', List.any_eq_true, decide_eq_true_eq, and_assoc]
  exact Iff.rfl

/-- Asking for more never looks safer: a larger selection of modules has at
least the risk, the costs and the blocking checks of a smaller one, and is
refused with it.  Forcing a run changes nothing but whether it passes, and never
overrides a blocking finding. -/
theorem run_never_looks_safer (input : Input F Params) :
    (∀ fewer more : List ModuleId, fewer ≠ [] →
      (∀ id ∈ more, (input.registry id).isSome = true) →
        (input.select more).Fits → fewer.Subperm more →
          AsksForMore (run (input.select fewer)) (run (input.select more)) ∧
            (input.cycleTarget = none →
              CostsMore (run (input.select fewer))
                (run (input.select more)))) ∧
      (∀ passed, { run { input with force := true } with passed := passed } =
        { run { input with force := false } with passed := passed }) ∧
      ((run { input with force := false }).passed = true →
        (run { input with force := true }).passed = true) ∧
      ((∃ f ∈ (run input).findings, f.blocking = true) →
        (run input).passed = false) := by
  refine ⟨?_, fun _ => rfl, ?_, ?_⟩
  · intro fewer more hne hknown hfits h
    have hcovered := findings_covered input hne hknown hfits h
    obtain ⟨hduration, hwritten, hnetwork, hpeak, hvolume⟩ :=
      Estimate.le_iff.mp (once_le input h)
    have hrisk := classify_mono (maxSafety_le input h)
      input.inventory.software.productionLikelihood input.inventory
    have hrefused : (run (input.select fewer)).passed = false →
        (run (input.select more)).passed = false := by
      rw [passed_eq_false_iff, passed_eq_false_iff]
      rintro (⟨f, hf, hblocking⟩ | ⟨hforce, ⟨f, hf, hwarning⟩, hproduction⟩)
      · obtain ⟨g, hg, hblocks, -⟩ := hcovered.blocking f hf hblocking
        exact .inl ⟨g, hg, hblocks⟩
      · obtain ⟨g, hg, hblocks | hwarns⟩ := hcovered.warning f hf hwarning
        · exact .inl ⟨g, hg, hblocks⟩
        · exact .inr ⟨hforce, ⟨g, hg, hwarns⟩, hproduction.trans hrisk⟩
    refine ⟨⟨hrisk, hpeak, hwritten, hcovered.blocking, hrefused⟩, ?_⟩
    intro hnone
    have hcycles : ∀ durationS, cycles input.cycleTarget durationS = 1 := by
      intro durationS
      rw [hnone]
      rfl
    have htimes : ∀ {m n : ℕ}, m ≤ n →
        Estimate.saturatingMul m 1 ≤ Estimate.saturatingMul n 1 := by
      intro m n hle
      exact min_le_min_right _ (Nat.mul_le_mul_right 1 hle)
    have hestimate : ∀ modules, (once (input.select modules)).times
        (cycles (input.select modules).cycleTarget
          (once (input.select modules)).durationS) =
            (once (input.select modules)).times 1 := by
      intro modules
      exact congrArg _ (hcycles _)
    constructor
    · simp only [run, hestimate]
      exact htimes hduration
    · simp only [run, hestimate]
      exact htimes hnetwork
    · simp only [run, hestimate]
      exact htimes hvolume
  · intro hpassed
    by_contra hrefused
    rw [Bool.not_eq_true, passed_eq_false_iff] at hrefused
    obtain hblocking | ⟨hforce, -⟩ := hrefused
    · have hfalse := (passed_eq_false_iff { input with force := false }).mpr
        (.inl hblocking)
      exact Bool.false_ne_true (hfalse.symm.trans hpassed)
    · exact Bool.false_ne_true hforce.symm
  · intro hblocking
    exact (passed_eq_false_iff input).mpr (.inl hblocking)

end

/-! ## Two modules on a small machine -/

def cpuId : ModuleId where
  asStr := "cpu.mixed"
  valid := ModuleId.check_cpuMixed

def storageId : ModuleId where
  asStr := "storage.mixed"
  valid := by decide

/-- A module that computes, or one that writes and fills the memory. -/
def twoModules (id : ModuleId) : Option (RegisteredModule Unit) :=
  if id = cpuId then
    some
      { manifest := ⟨cpuId, .computeIntensive, [], 0, 0⟩
        estimatedDurationS := fun _ => 90
        estimatedPeakMemoryBytes := fun _ => 2 ^ 20
        estimatedWriteVolumeBytes := fun _ => 0 }
  else if id = storageId then
    some
      { manifest := ⟨storageId, .writesTemporaryFiles, [], 2 ^ 30, 0⟩
        estimatedDurationS := fun _ => 120
        estimatedPeakMemoryBytes := fun _ => 2 ^ 30
        estimatedWriteVolumeBytes := fun _ => 2 ^ 34 }
  else none

def smallMachine : Input Float Unit where
  inventory :=
    { StandIns.inventory with
      memory :=
        { (StandIns.inventory : Inventory Float).memory with
          availableBytes := 2 ^ 30 } }
  registry := twoModules
  modules := []
  profile := .custom
  params := ()
  freeBytes := some (2 ^ 33)
  force := false
  cycleTarget := none

theorem run_never_looks_safer_smallMachine :
    AsksForMore (run (smallMachine.select [cpuId]))
        (run (smallMachine.select [storageId, cpuId])) ∧
      CostsMore (run (smallMachine.select [cpuId]))
        (run (smallMachine.select [storageId, cpuId])) := by
  have hfits : (smallMachine.select [storageId, cpuId]).Fits := by
    constructor <;> decide
  have hknown : ∀ id ∈ [storageId, cpuId],
      (smallMachine.registry id).isSome = true := by
    decide
  have hsub : [cpuId].Subperm [storageId, cpuId] :=
    (List.sublist_cons_self storageId [cpuId]).subperm
  have h := (run_never_looks_safer smallMachine).1 [cpuId]
    [storageId, cpuId] (List.cons_ne_nil _ _) hknown hfits hsub
  exact ⟨h.1, h.2 rfl⟩

end Preflight

end Darcbench
