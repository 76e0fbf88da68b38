import Darcbench.Agent.ModuleLoop
import Darcbench.Protocol.Rounding

/-!
# Calibration

Before a workload is measured, the harness searches for the number of iterations
that takes about as long as a repetition should.  The search starts from one
iteration, grows the probe until its reading can be trusted, and extrapolates
from there.
-/

namespace Darcbench

/-! ## The search -/

section

variable {F : Type} [F64 F] [F64.Round F]

/-- Ceiling on calibration iterations. -/
def maxCalibrationIterations : ℕ := 2 ^ 24

/-- Largest factor by which the search may grow its probe in one step. -/
def maxCalibrationGrowth : F := 16.0

/-- The factor after a reading that could not be trusted. -/
def calibrationGrowth (trustworthy elapsedMs : F) : F :=
  if 0.0 < elapsedMs then
    F64.clamp (trustworthy / elapsedMs) 2.0 maxCalibrationGrowth
  else
    maxCalibrationGrowth

/-- The count after one whose reading could not be trusted. -/
def nextIterations (growth : F) (iterations : ℕ) : ℕ :=
  let next := F64.Round.toU64 (F64.ofNat iterations * growth)
  min (max next (min (iterations + 1) (2 ^ 64 - 1))) maxCalibrationIterations

/-- The count extrapolated from a reading that can be trusted. -/
def extrapolated (target elapsedMs : F) (iterations : ℕ) : ℕ :=
  let scale := target / F64.max elapsedMs 0.001
  let scaled := F64.Round.toU64
    (F64.Round.round (F64.ofNat iterations * scale))
  min (max scaled 1) maxCalibrationIterations

theorem lt_nextIterations {growth : F} {iterations : ℕ}
    (h : iterations < maxCalibrationIterations) :
    iterations < nextIterations growth iterations := by
  have hceiling : maxCalibrationIterations < 2 ^ 64 - 1 := by
    decide
  rw [nextIterations]
  omega

/-- The search from the probe with the given number, together with the counts it
probes.  The reporter and the probe may answer differently each time. -/
def calibrateFrom
    (target trustworthy : F) (isCancelled : ℕ → Bool) (probe : ℕ → ℕ → F)
    (call iterations : ℕ) : List ℕ × Except ModuleError ℕ :=
  if isCancelled call then
    ([], .error .cancelled)
  else
    let elapsedMs := probe call iterations
    if trustworthy ≤ elapsedMs then
      ([iterations], .ok (extrapolated target elapsedMs iterations))
    else if _h : maxCalibrationIterations ≤ iterations then
      ([iterations], .ok maxCalibrationIterations)
    else
      let rest := calibrateFrom target trustworthy isCancelled probe (call + 1)
        (nextIterations (calibrationGrowth trustworthy elapsedMs) iterations)
      (iterations :: rest.1, rest.2)
termination_by maxCalibrationIterations - iterations
decreasing_by
  have hlt := @lt_nextIterations F _ _
    (calibrationGrowth trustworthy (probe call iterations)) iterations
    (Nat.lt_of_not_le _h)
  omega

/-- Finds an iteration count whose execution takes approximately the given
time. -/
def calibrateWith
    (targetMs : ℕ) (isCancelled : ℕ → Bool) (probe : ℕ → ℕ → F) :
    List ℕ × Except ModuleError ℕ :=
  let target : F := F64.ofNat targetMs
  calibrateFrom target (target / 4.0) isCancelled probe 0 1

end

/-! ## Growth -/

section

variable {F : Type} [F64 F] [F64.Round F] [F64.Grows F]

/-- A number is clamped to the limits of the growth. -/
theorem clamp_bounds {a : F} (h : F64.isNan a = false) :
    2.0 ≤ F64.clamp a 2.0 maxCalibrationGrowth ∧
      F64.clamp a 2.0 maxCalibrationGrowth ≤ 16.0 := by
  have htwo : F64.isNan (2.0 : F) = false := by
    rw [F64.isNan, decide_eq_true F64.Grows.two_le_two]
    rfl
  have hsixteen : F64.isNan (16.0 : F) = false := by
    rw [F64.isNan, decide_eq_true F64.Grows.sixteen_le_sixteen]
    rfl
  rw [F64.clamp, maxCalibrationGrowth]
  by_cases hlow : a < 2.0
  · rw [if_pos hlow]
    exact ⟨F64.Grows.two_le_two, F64.Grows.two_le_sixteen⟩
  · rw [if_neg hlow]
    by_cases hhigh : 16.0 < a
    · rw [if_pos hhigh]
      exact ⟨F64.Grows.two_le_sixteen, F64.Grows.sixteen_le_sixteen⟩
    · rw [if_neg hhigh]
      exact ⟨F64.Grows.le_of_not_lt _ _ h htwo hlow,
        F64.Grows.le_of_not_lt _ _ hsixteen h hhigh⟩

/-- A reading that cannot be trusted still asks for twice as much. -/
theorem calibrationGrowth_bounds
    {targetMs : ℕ} (htarget : targetMs < 2 ^ 64) {elapsedMs : F}
    (h : ¬ F64.ofNat targetMs / 4.0 ≤ elapsedMs) :
    2.0 ≤ calibrationGrowth (F64.ofNat targetMs / 4.0) elapsedMs ∧
      calibrationGrowth (F64.ofNat targetMs / 4.0) elapsedMs ≤ 16.0 := by
  have hnan : F64.isNan (F64.ofNat targetMs / 4.0 : F) = false :=
    F64.Grows.isNan_div _ _ (F64.Grows.isNan_ofNat targetMs htarget)
      F64.Grows.four_pos F64.Grows.isFinite_four
  rw [calibrationGrowth]
  by_cases hpos : 0.0 < elapsedMs
  · have hfinite : F64.isFinite elapsedMs = true := by
      by_contra hinfinite
      exact h (F64.Grows.le_of_not_isFinite _ _ hnan hpos
        (Bool.eq_false_of_not_eq_true hinfinite))
    rw [if_pos hpos]
    exact clamp_bounds (F64.Grows.isNan_div _ _ hnan hpos hfinite)
  · rw [if_neg hpos]
    exact ⟨F64.Grows.two_le_sixteen, F64.Grows.sixteen_le_sixteen⟩

/-- The next probe is twice as large, or at the ceiling. -/
theorem double_le_nextIterations
    {growth : F} (h : 2.0 ≤ growth ∧ growth ≤ 16.0) {iterations : ℕ}
    (hle : iterations ≤ maxCalibrationIterations) :
    min (2 * iterations) maxCalibrationIterations ≤
      nextIterations growth iterations := by
  have hdouble := F64.Grows.double_le iterations growth hle h.1 h.2
  rw [nextIterations]
  omega

end

/-- The counts of a search increase from the first one within the bounds, and it
ends with a count within the bounds. -/
structure SearchesWithin (first limit : ℕ)
    (search : List ℕ × Except ModuleError ℕ) : Prop where
  length_le : search.1.length ≤ limit
  increasing : search.1.Pairwise (· < ·)
  bounds : ∀ n ∈ search.1, first ≤ n ∧ n ≤ maxCalibrationIterations
  ends : ∃ n, search.2 = .ok n ∧ 1 ≤ n ∧ n ≤ maxCalibrationIterations

namespace SearchesWithin

/-- The search ends with this probe. -/
theorem stop {iterations limit n : ℕ}
    (hlimit : 1 ≤ limit) (hle : iterations ≤ maxCalibrationIterations)
    (hpos : 1 ≤ n) (hn : n ≤ maxCalibrationIterations) :
    SearchesWithin iterations limit ([iterations], .ok n) where
  length_le := hlimit
  increasing := List.pairwise_singleton ..
  bounds := by
    intro m hm
    rw [List.mem_singleton.mp hm]
    exact ⟨le_rfl, hle⟩
  ends := ⟨n, rfl, hpos, hn⟩

/-- The search goes on with a larger probe. -/
theorem cons {iterations next limit : ℕ}
    {rest : List ℕ × Except ModuleError ℕ}
    (h : SearchesWithin next limit rest) (hlt : iterations < next)
    (hle : iterations ≤ maxCalibrationIterations) :
    SearchesWithin iterations (limit + 1) (iterations :: rest.1, rest.2) where
  length_le := Nat.succ_le_succ h.length_le
  increasing :=
    List.pairwise_cons.mpr
      ⟨fun n hn => hlt.trans_le (h.bounds n hn).1, h.increasing⟩
  bounds := by
    intro n hn
    rcases List.mem_cons.mp hn with rfl | hmem
    · exact ⟨le_rfl, hle⟩
    · exact ⟨hlt.le.trans (h.bounds n hmem).1, (h.bounds n hmem).2⟩
  ends := h.ends

end SearchesWithin

section

variable {F : Type} [F64 F] [F64.Round F]

theorem one_le_extrapolated (target elapsedMs : F) (iterations : ℕ) :
    1 ≤ extrapolated target elapsedMs iterations ∧
      extrapolated target elapsedMs iterations ≤ maxCalibrationIterations := by
  have hceiling : 1 ≤ maxCalibrationIterations := by
    decide
  rw [extrapolated]
  omega

variable [F64.Grows F]

/-- From the probe with number `call` on, when the count has doubled that often
or reached the ceiling. -/
theorem searchesWithin_calibrateFrom
    {targetMs : ℕ} (htarget : targetMs < 2 ^ 64)
    (probe : ℕ → ℕ → F) (call iterations : ℕ) (hcall : call ≤ 24)
    (hpos : 1 ≤ iterations)
    (hle : iterations ≤ maxCalibrationIterations)
    (hgrown : min (2 ^ call) maxCalibrationIterations ≤ iterations) :
    SearchesWithin iterations (25 - call)
      (calibrateFrom (F64.ofNat targetMs) (F64.ofNat targetMs / 4.0)
        (fun _ => false) probe call iterations) := by
  have hlimit : 1 ≤ 25 - call := by
    omega
  rw [calibrateFrom, if_neg Bool.false_ne_true]
  by_cases htrust : F64.ofNat targetMs / 4.0 ≤ probe call iterations
  · obtain ⟨hone, hmost⟩ := one_le_extrapolated
      (F64.ofNat targetMs) (probe call iterations) iterations
    rw [if_pos htrust]
    exact .stop hlimit hle hone hmost
  · rw [if_neg htrust]
    by_cases hceiling : maxCalibrationIterations ≤ iterations
    · rw [dif_pos hceiling]
      exact .stop hlimit hle (hpos.trans hle) le_rfl
    · have hlt : iterations < maxCalibrationIterations :=
        Nat.lt_of_not_le hceiling
      have hbelow : call < 24 := by
        by_contra hlast
        have heq : call = 24 := by
          omega
        rw [heq] at hgrown
        exact hceiling (by simpa [maxCalibrationIterations] using hgrown)
      have hstep := double_le_nextIterations
        (calibrationGrowth_bounds htarget htrust) hle
      have hnext : nextIterations (calibrationGrowth
          (F64.ofNat targetMs / 4.0) (probe call iterations)) iterations ≤
            maxCalibrationIterations :=
        min_le_right _ _
      have hmore := @lt_nextIterations F _ _ (calibrationGrowth
        (F64.ofNat targetMs / 4.0) (probe call iterations)) iterations hlt
      have hpow : 2 ^ (call + 1) = 2 * 2 ^ call :=
        pow_succ' 2 call
      have hsucc : 25 - call = 25 - (call + 1) + 1 := by
        omega
      rw [dif_neg hceiling, hsucc]
      exact .cons
        (searchesWithin_calibrateFrom htarget probe (call + 1) _ hbelow
          (by omega) hnext (by omega))
        hmore hle
termination_by 24 - call

theorem searchesWithin_calibrateWith
    {targetMs : ℕ} (htarget : targetMs < 2 ^ 64) (probe : ℕ → ℕ → F) :
    SearchesWithin 1 25
      (calibrateWith targetMs (fun _ => false) probe) :=
  searchesWithin_calibrateFrom htarget probe 0 1 (Nat.zero_le _) le_rfl
    (by decide) (by decide)

end

/-! ## Exact arithmetic -/

theorem Exact.roundAway_of_nonneg {x : ℝ} (h : 0 ≤ x) :
    (roundAway x).toNat = ⌊x + 1 / 2⌋₊ := by
  rw [roundAway, if_pos h, Int.floor_toNat]

attribute [local instance] atLeastTwo_two in
/-- The count at which a probe that takes `c` for each iteration reaches the
target, within the bounds. -/
noncomputable def linearIterations (targetMs : ℕ) (c : ℝ) : ℕ :=
  min (max ⌊targetMs / c + 1 / 2⌋₊ 1) maxCalibrationIterations

/-- A reading that can be trusted is extrapolated to the linear answer. -/
theorem extrapolated_linear
    {targetMs iterations : ℕ} {c : ℝ} (hc : 0 < c) (hpos : 1 ≤ iterations)
    (htrust : (targetMs : ℝ) / 4 ≤ iterations * c) :
    extrapolated (Exact.fin targetMs) (Exact.fin (iterations * c))
      iterations = linearIterations targetMs c := by
  have hmax : ∃ y : ℝ, 0 < y ∧
      F64.max (Exact.fin (iterations * c)) 0.001 = Exact.fin y ∧
      (iterations : ℝ) * (targetMs / y) = targetMs / c := by
    have hfloor : (0.001 : Exact) = Exact.fin 0.001 :=
      Exact.ofScientific_eq ..
    rw [hfloor, Exact.max_fin]
    refine ⟨_, lt_max_of_lt_right (by norm_num), rfl, ?_⟩
    rcases Nat.eq_zero_or_pos targetMs with rfl | htarget
    · simp
    · have hone : (1 : ℝ) ≤ targetMs := Nat.one_le_cast.mpr htarget
      have hreading : (0.001 : ℝ) ≤ iterations * c := by
        norm_num
        linarith
      have hiterations : (iterations : ℝ) ≠ 0 :=
        Nat.cast_ne_zero.mpr (Nat.one_le_iff_ne_zero.mp hpos)
      rw [max_eq_left hreading]
      field_simp
  obtain ⟨y, hy, hscale, hanswer⟩ := hmax
  have hnonneg : (0 : ℝ) ≤ targetMs / c :=
    div_nonneg (Nat.cast_nonneg _) hc.le
  have hrounded : F64.Round.toU64 (F64.Round.round
      (Exact.fin ((targetMs : ℝ) / c))) =
        min ⌊(targetMs : ℝ) / c + 1 / 2⌋₊ (2 ^ 64 - 1) := by
    change min ⌊((Exact.roundAway (targetMs / c) : ℤ) : ℝ)⌋₊ (2 ^ 64 - 1) = _
    rw [← Int.floor_toNat, Int.floor_intCast,
      Exact.roundAway_of_nonneg hnonneg]
  have hceiling : maxCalibrationIterations < 2 ^ 64 - 1 := by
    decide
  rw [extrapolated, hscale, Exact.fin_div_fin _ hy.ne', Exact.ofNat_eq,
    Exact.fin_mul_fin, hanswer, hrounded, linearIterations]
  omega

/-- At the ceiling the linear answer is the ceiling. -/
theorem linearIterations_of_ceiling
    {targetMs : ℕ} {c : ℝ} (hc : 0 < c)
    (h : (maxCalibrationIterations : ℝ) * c < targetMs / 4) :
    linearIterations targetMs c = maxCalibrationIterations := by
  have hfloor : maxCalibrationIterations ≤ ⌊targetMs / c + 1 / 2⌋₊ := by
    apply Nat.le_floor
    have hquotient : (maxCalibrationIterations : ℝ) ≤ targetMs / c := by
      rw [le_div_iff₀ hc]
      have htarget : (0 : ℝ) ≤ targetMs := Nat.cast_nonneg _
      linarith
    linarith
  rw [linearIterations]
  omega

theorem calibrateFrom_linear
    (targetMs : ℕ) {c : ℝ} (hc : 0 < c) (call iterations : ℕ)
    (hpos : 1 ≤ iterations) (hle : iterations ≤ maxCalibrationIterations) :
    (calibrateFrom (Exact.fin targetMs) (Exact.fin targetMs / 4.0)
      (fun _ => false) (fun _ n => Exact.fin (n * c)) call iterations).2 =
        .ok (linearIterations targetMs c) := by
  have hfour : Exact.fin targetMs / 4.0 = Exact.fin (targetMs / 4) := by
    rw [Exact.ofScientific_eq, Exact.fin_div_fin _ (by norm_num)]
    norm_num
  rw [calibrateFrom, if_neg Bool.false_ne_true, hfour]
  dsimp only
  by_cases htrust : Exact.fin (targetMs / 4) ≤ Exact.fin (iterations * c)
  · rw [if_pos htrust, extrapolated_linear hc hpos htrust]
  · rw [if_neg htrust]
    by_cases hceiling : maxCalibrationIterations ≤ iterations
    · have heq : iterations = maxCalibrationIterations :=
        hle.antisymm hceiling
      rw [dif_pos hceiling]
      rw [heq] at htrust
      rw [linearIterations_of_ceiling hc
        (not_le.mp fun hle => htrust ((Exact.fin_le_fin _ _).mpr hle))]
    · have hlt : iterations < maxCalibrationIterations :=
        Nat.lt_of_not_le hceiling
      have hmore := @lt_nextIterations Exact _ _ (calibrationGrowth
        (Exact.fin targetMs / 4.0) (Exact.fin (iterations * c))) iterations hlt
      rw [dif_neg hceiling, ← hfour]
      exact calibrateFrom_linear targetMs hc (call + 1) _
        (hpos.trans hmore.le) (min_le_right _ _)
termination_by maxCalibrationIterations - iterations

/-- Calibration always ends, in few probes and inside its bounds, whatever the
probe answers; in exact arithmetic a probe with a constant cost is met. -/
theorem calibrateWith_ends :
    (∀ (targetMs : UInt64) (probe : ℕ → ℕ → Float),
      SearchesWithin 1 25
        (calibrateWith targetMs.toNat (fun _ => false) probe)) ∧
      ∀ (targetMs : ℕ) (c : ℝ), 0 < c →
        (calibrateWith targetMs (fun _ => false)
          fun _ n => Exact.fin (n * c)).2 =
            .ok (linearIterations targetMs c) := by
  constructor
  · intro targetMs probe
    exact searchesWithin_calibrateWith targetMs.toNat_lt probe
  · intro targetMs c hc
    exact calibrateFrom_linear targetMs hc 0 1 le_rfl (by decide)

/-- A probe that never answers with a number, and one with a third of a
millisecond for each iteration. -/
theorem calibrateWith_ends_third :
    SearchesWithin 1 25 (calibrateWith 300 (fun _ => false)
        fun _ _ => (0.0 / 0.0 : Float)) ∧
      (calibrateWith 300 (fun _ => false)
        fun _ n => Exact.fin (n * (1 / 3))).2 = .ok 900 := by
  refine ⟨calibrateWith_ends.1 300 _, ?_⟩
  rw [calibrateWith_ends.2 300 (1 / 3) (by norm_num), linearIterations]
  have hfloor : ⌊((300 : ℕ) : ℝ) / (1 / 3) + 1 / 2⌋₊ = 900 := by
    rw [Nat.floor_eq_iff (by norm_num)]
    norm_num
  rw [hfloor]
  rfl

end Darcbench
