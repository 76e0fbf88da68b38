import Darcbench.Agent.RunManager
import Darcbench.Support.Saturating

/-!
# Cycles of an endurance run

A cycling profile repeats its modules until the next pass would outlast the
target.  The preflight screen announces the cost of all passes in advance, from
a closed formula on whole seconds.
-/

namespace Darcbench

/-! ## The cycles of a run -/

namespace Cycling

/-- Retention needs two points. -/
def minEnduranceCycles : ℕ := 2

/-- The loop over the cycles, with the cycles that were run so far.  The
counter of the loop has 32 bits, and a cycle takes the time that `duration`
gives. -/
def cycleLoop (target : Option ℕ) (isCancelled : ℕ → Bool)
    (duration : ℕ → ℕ) : ℕ → ℕ → ℕ → List ℕ → Option (List ℕ)
  | 0, _, _, _ => none
  | fuel + 1, cycle, elapsed, ran =>
      let ran := ran ++ [cycle]
      let elapsed := elapsed + duration cycle
      let cycle := (cycle + 1) % 2 ^ 32
      match target with
      | none => some ran
      | some target =>
          if isCancelled cycle then
            some ran
          else if cycle < minEnduranceCycles then
            cycleLoop (some target) isCancelled duration fuel cycle elapsed ran
          else if target < elapsed + elapsed / cycle then
            -- The next cycle would not fit.
            some ran
          else
            cycleLoop (some target) isCancelled duration fuel cycle elapsed ran

/-- The cycles of a run. -/
def execute (target : Option ℕ) (isCancelled : ℕ → Bool) (duration : ℕ → ℕ)
    (fuel : ℕ) : Option (List ℕ) :=
  cycleLoop target isCancelled duration fuel 0 0 []

end Cycling

/-! ## The estimate -/

namespace Preflight

/-- What a module is expected to cost, and what its manifest allows. -/
structure ModuleCost where
  estimatedDurationS : ℕ
  maxBytesWritten : ℕ
  maxNetworkBytes : ℕ
  estimatedPeakMemoryBytes : ℕ
  estimatedWriteVolumeBytes : ℕ

/-- What a run is expected to cost. -/
structure Estimate where
  durationS : ℕ
  bytesWritten : ℕ
  networkBytes : ℕ
  peakMemoryBytes : ℕ
  writeVolumeBytes : ℕ

namespace Estimate

def zero : Estimate := ⟨0, 0, 0, 0, 0⟩

/-- Modules run one after another, so the largest peak is the run's. -/
def add (estimate : Estimate) (module : ModuleCost) : Estimate where
  durationS := estimate.durationS + module.estimatedDurationS
  bytesWritten := estimate.bytesWritten + module.maxBytesWritten
  networkBytes := estimate.networkBytes + module.maxNetworkBytes
  peakMemoryBytes :=
    max estimate.peakMemoryBytes module.estimatedPeakMemoryBytes
  writeVolumeBytes :=
    estimate.writeVolumeBytes + module.estimatedWriteVolumeBytes

/-- The cost of one pass over the modules. -/
def ofModules (modules : List ModuleCost) : Estimate :=
  modules.foldl add zero

def saturatingMul (a b : ℕ) : ℕ :=
  min (a * b) u64Max

/-- A file that is written again takes no more space, and a later cycle uses
the memory of an earlier one. -/
def times (estimate : Estimate) (cycles : ℕ) : Estimate :=
  { estimate with
    durationS := saturatingMul estimate.durationS cycles
    writeVolumeBytes := saturatingMul estimate.writeVolumeBytes cycles
    networkBytes := saturatingMul estimate.networkBytes cycles }

end Estimate

/-- How many passes are expected in whole seconds. -/
def cycles (cycleTarget : Option ℕ) (estimatedDurationS : ℕ) : ℕ :=
  match cycleTarget with
  | some target =>
      if 0 < estimatedDurationS then
        max (target / 10 ^ 9 / max estimatedDurationS 1)
          Cycling.minEnduranceCycles
      else
        Cycling.minEnduranceCycles
  | none => 1

/-- The estimate on the preflight screen. -/
def disclosed (cycleTarget : Option ℕ) (modules : List ModuleCost) :
    Estimate :=
  let estimate := Estimate.ofModules modules
  estimate.times (cycles cycleTarget estimate.durationS)

end Preflight

/-! ## What the loop executes -/

namespace Cycling

/-- The number of passes of which each fits. -/
def fitting (target perCycle : ℕ) : ℕ :=
  max (target / perCycle) minEnduranceCycles

/-- After a pass there is room for another one exactly while passes that fit
are left. -/
theorem projected_le_iff {target perCycle n : ℕ} (hpos : 0 < perCycle)
    (hn : 0 < n) :
    n * perCycle + n * perCycle / n ≤ target ↔ n < target / perCycle := by
  rw [Nat.mul_div_cancel_left _ hn, ← Nat.succ_mul, ← Nat.succ_le_iff,
    Nat.le_div_iff_mul_le hpos]

/-- The loop that has run `n` passes of the same length goes on to the last one
that fits. -/
theorem cycleLoop_eq {target perCycle n fuel : ℕ} (hpos : 0 < perCycle)
    (hcounter : fitting target perCycle < 2 ^ 32)
    (hn : n < fitting target perCycle)
    (hfuel : fitting target perCycle - n ≤ fuel) :
    cycleLoop (some target) (fun _ => false) (fun _ => perCycle) fuel n
      (n * perCycle) (List.range n) =
        some (List.range (fitting target perCycle)) := by
  induction fuel generalizing n with
  | zero => omega
  | succ fuel ih =>
      have hmod : (n + 1) % 2 ^ 32 = n + 1 := Nat.mod_eq_of_lt (by omega)
      have hran : List.range n ++ [n] = List.range (n + 1) :=
        List.range_succ.symm
      have helapsed : n * perCycle + perCycle = (n + 1) * perCycle :=
        (Nat.succ_mul n perCycle).symm
      have hnext : n + 1 < fitting target perCycle →
          cycleLoop (some target) (fun _ => false) (fun _ => perCycle) fuel
            (n + 1) ((n + 1) * perCycle) (List.range (n + 1)) =
              some (List.range (fitting target perCycle)) :=
        fun hlt => ih hlt (by omega)
      simp only [cycleLoop, hmod, hran, helapsed, Bool.false_eq_true, if_false]
      by_cases hmin : n + 1 < minEnduranceCycles
      · rw [if_pos hmin]
        exact hnext (hmin.trans_le (Nat.le_max_right _ _))
      · rw [if_neg hmin]
        by_cases hfits : n + 1 < target / perCycle
        · have hroom := (projected_le_iff hpos n.succ_pos).mpr hfits
          rw [if_neg (Nat.not_lt.mpr hroom)]
          exact hnext (hfits.trans_le (Nat.le_max_left _ _))
        · have hfull := mt (projected_le_iff hpos n.succ_pos).mp hfits
          rw [if_pos (Nat.not_le.mp hfull)]
          have hlast : n + 1 = fitting target perCycle := by
            rw [fitting] at hn ⊢
            omega
          rw [hlast]

/-- A run executes within the counter of the loop, since no request exceeds the
absolute ceiling. -/
theorem fitting_lt {registry : Registry} {request : StartRequest}
    {modules : List ModuleId} {target : ℕ}
    (h : (RegisteredRun.new registry request modules).cycleTarget =
      some target)
    {perCycle : ℕ} (hsecond : Supervision.seconds 1 ≤ perCycle) :
    fitting target perCycle < 2 ^ 32 := by
  obtain ⟨requested, -, rfl⟩ := Option.map_eq_some_iff.mp h
  have hle : min requested
      (Supervision.seconds (Supervision.enduranceMaxMinutes * 60)) / perCycle ≤
        Supervision.seconds (Supervision.enduranceMaxMinutes * 60) /
          Supervision.seconds 1 :=
    Nat.div_le_div (Nat.min_le_right _ _) hsecond (by decide)
  rw [fitting, max_lt_iff]
  exact ⟨hle.trans_lt (by decide), by decide⟩

/-- The formula counts the passes that fit, although it cuts the target down to
whole seconds. -/
theorem cycles_eq_fitting {target estimatedDurationS : ℕ}
    (hpos : 0 < estimatedDurationS) :
    Preflight.cycles (some target) estimatedDurationS =
      fitting target (Supervision.seconds estimatedDurationS) := by
  rw [Preflight.cycles, if_pos hpos, fitting, Supervision.seconds,
    Nat.max_eq_left hpos, Nat.div_div_eq_div_mul,
    Nat.mul_comm estimatedDurationS]

theorem execute_eq {target : Option ℕ} {estimatedDurationS : ℕ}
    (hpos : 0 < estimatedDurationS)
    (hcounter : ∀ t ∈ target,
      fitting t (Supervision.seconds estimatedDurationS) < 2 ^ 32)
    {fuel : ℕ} (hfuel : Preflight.cycles target estimatedDurationS ≤ fuel) :
    execute target (fun _ => false)
      (fun _ => Supervision.seconds estimatedDurationS) fuel =
        some (List.range (Preflight.cycles target estimatedDurationS)) := by
  cases target with
  | none =>
      obtain ⟨fuel, rfl⟩ := Nat.exists_eq_add_of_le' hfuel
      rfl
  | some target =>
      rw [cycles_eq_fitting hpos] at hfuel ⊢
      have hseconds : 0 < Supervision.seconds estimatedDurationS :=
        Nat.mul_pos hpos (by decide)
      have hfirst : 0 < fitting target
          (Supervision.seconds estimatedDurationS) :=
        Nat.lt_of_lt_of_le (by decide) (Nat.le_max_right _ _)
      have hloop := cycleLoop_eq hseconds (hcounter target rfl) hfirst hfuel
      rwa [Nat.zero_mul, List.range_zero] at hloop

/-- If every pass takes as long as the preflight estimates, the run executes
the passes that the estimate counted, and the estimate of what adds up is that
of all of them, as far as a 64-bit counter can say it. -/
theorem executes_disclosed_cycles (registry : Registry)
    (request : StartRequest) (ids : List ModuleId)
    (modules : List Preflight.ModuleCost)
    (hpos : 0 < (Preflight.Estimate.ofModules modules).durationS) :
    let target := (RegisteredRun.new registry request ids).cycleTarget
    let once := Preflight.Estimate.ofModules modules
    let cycles := Preflight.cycles target once.durationS
    (∀ fuel ≥ cycles,
      execute target (fun _ => false)
        (fun _ => Supervision.seconds once.durationS) fuel =
          some (List.range cycles)) ∧
      (target.isSome = true → minEnduranceCycles ≤ cycles) ∧
      Preflight.disclosed target modules =
        { once with
          durationS := min (once.durationS * cycles) u64Max
          writeVolumeBytes := min (once.writeVolumeBytes * cycles) u64Max
          networkBytes := min (once.networkBytes * cycles) u64Max } := by
  intro target once cycles
  refine ⟨?_, ?_, ?_⟩
  · intro fuel hfuel
    refine execute_eq hpos ?_ hfuel
    intro t ht
    exact fitting_lt ht (Nat.mul_le_mul_right _ hpos)
  · intro hsome
    obtain ⟨t, ht⟩ := Option.isSome_iff_exists.mp hsome
    have hcycles : cycles = fitting t (Supervision.seconds once.durationS) := by
      rw [← cycles_eq_fitting hpos, ← ht]
    rw [hcycles]
    exact Nat.le_max_right _ _
  · rw [Preflight.disclosed, Preflight.Estimate.times]
    rfl

/-- An hour of endurance. -/
def hourRequest : StartRequest :=
  { RunManager.requestOf '0' with
    profile := .endurance
    requestedModules := none }

/-- A module that writes a gigabyte in ninety seconds. -/
def fixtureModule : Preflight.ModuleCost where
  estimatedDurationS := 90
  maxBytesWritten := 10 ^ 9
  maxNetworkBytes := 0
  estimatedPeakMemoryBytes := 10 ^ 6
  estimatedWriteVolumeBytes := 10 ^ 9

theorem executes_disclosed_cycles_hour :
    (∀ fuel ≥ 40, execute (some (Supervision.seconds 3600)) (fun _ => false)
      (fun _ => Supervision.seconds 90) fuel = some (List.range 40)) ∧
      (true = true → minEnduranceCycles ≤ 40) ∧
      Preflight.disclosed (some (Supervision.seconds 3600)) [fixtureModule] =
        ⟨3600, 10 ^ 9, 0, 10 ^ 6, 40 * 10 ^ 9⟩ :=
  executes_disclosed_cycles RunManager.cpuOnly hourRequest [] [fixtureModule]
    (by decide)

end Cycling

end Darcbench
