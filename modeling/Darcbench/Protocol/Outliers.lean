import Darcbench.Protocol.Comparison

/-!
# Outliers

A sample is an outlier if it lies far from the median, as measured by the median
absolute deviation.  Outliers are flagged by their place among the samples.
-/

namespace Darcbench

variable {F : Type} [F64 F]

/-- The median and the median absolute deviation of samples. -/
def medianAndMad (samples : List F) : Option (F × F) := do
  let med ← F64.medianOfSorted (F64.sortPartial samples)
  let deviations := samples.map fun v => F64.abs (v - med)
  let mad ← F64.medianOfSorted (F64.sortPartial deviations)
  some (med, mad)

/-- The modified Z-score of a sample, without its sign. -/
def modifiedZ (spread : F × F) (v : F) : F :=
  F64.abs (0.6745 * (v - spread.1) / spread.2)

/-- The places of the samples that are judged to be outliers. -/
def outlierIndices (samples : List F) (threshold : F) : List ℕ :=
  if samples.length < 4 then
    []
  else
    match medianAndMad samples with
    | none => []
    | some spread =>
        if spread.2 ≤ F64.epsilon then []
        else
          (samples.zipIdx.filter fun (v, _) =>
            threshold < modifiedZ spread v).map (·.2)

/-- The deviation is large enough for a score. -/
def SpreadsEnough (samples : List F) : Prop :=
  ∃ spread, medianAndMad samples = some spread ∧ ¬ spread.2 ≤ F64.epsilon

/-- There are enough samples, they deviate from their median, and the score of
this one is beyond the threshold. -/
def Deviates (samples : List F) (threshold v : F) : Prop :=
  4 ≤ samples.length ∧ ∃ spread, medianAndMad samples = some spread ∧
    ¬ spread.2 ≤ 0.0 ∧ threshold < modifiedZ spread v

theorem pairwise_outlierIndices (samples : List F) (threshold : F) :
    (outlierIndices samples threshold).Pairwise (· < ·) := by
  have hplaces : (samples.zipIdx.map (·.2)).Pairwise (· < ·) := by
    have hrange : samples.zipIdx.map (·.2) = List.range' 0 samples.length :=
      List.zipIdx_map_snd 0 samples
    rw [hrange]
    exact List.pairwise_lt_range'
  rw [outlierIndices]
  split
  · exact List.Pairwise.nil
  · split
    · exact List.Pairwise.nil
    · split
      · exact List.Pairwise.nil
      · exact hplaces.sublist (List.filter_sublist.map _)

theorem outlierIndices_of_not_spreadsEnough {samples : List F} (threshold : F)
    (h : ¬ SpreadsEnough samples) : outlierIndices samples threshold = [] := by
  rw [outlierIndices]
  split
  · rfl
  · split
    · rfl
    · next spread hspread =>
        rw [if_pos]
        by_contra hlarge
        exact h ⟨spread, hspread, hlarge⟩

/-- Flagged are the places of the samples that deviate. -/
theorem mem_outlierIndices_iff {samples : List F} {threshold : F}
    (hzero : ∀ a : F, a ≤ 0.0 → a ≤ F64.epsilon)
    (h : SpreadsEnough samples) (k : ℕ) :
    k ∈ outlierIndices samples threshold ↔
      ∃ v, samples[k]? = some v ∧ Deviates samples threshold v := by
  obtain ⟨spread, hspread, hlarge⟩ := h
  rw [outlierIndices]
  by_cases hfew : samples.length < 4
  · rw [if_pos hfew]
    refine iff_of_false List.not_mem_nil ?_
    rintro ⟨v, -, hmany, -⟩
    exact absurd hmany (Nat.not_le_of_lt hfew)
  · rw [if_neg hfew, hspread]
    dsimp only
    rw [if_neg hlarge, List.mem_map]
    have hpositive : ¬ spread.2 ≤ 0.0 :=
      fun hle => hlarge (hzero _ hle)
    constructor
    · rintro ⟨⟨v, k⟩, hmem, rfl⟩
      obtain ⟨hplace, hscore⟩ := List.mem_filter.mp hmem
      exact ⟨v, List.mem_zipIdx_iff_getElem?.mp hplace, not_lt.mp hfew, spread,
        hspread, hpositive, of_decide_eq_true hscore⟩
    · rintro ⟨v, hplace, -, spread', hspread', -, hscore⟩
      obtain rfl := Option.some.inj (hspread.symm.trans hspread')
      exact ⟨(v, k), List.mem_filter.mpr
        ⟨List.mem_zipIdx_iff_getElem?.mpr hplace, decide_eq_true hscore⟩, rfl⟩

open Float.Model in
/-- The constant `EPSILON` is a positive number. -/
theorem le_epsilon_of_le_zero (a : Float) (h : a ≤ 0.0) : a ≤ F64.epsilon := by
  have hepsilon : (F64.epsilon : Float).toModel.unpack =
      .finite .positive (2 ^ 52) (-104) (Nat.two_pow_pos 52) := by
    rfl
  have hle : a.toModel.unpack.le (.zero .positive) = true :=
    F64.unpack_zero ▸ of_decide_eq_true h
  have hgoal : a.toModel.unpack.le (F64.epsilon : Float).toModel.unpack =
      true := by
    rw [hepsilon]
    cases hunpack : a.toModel.unpack with
    | notANumber =>
        rw [hunpack] at hle
        exact absurd hle Bool.false_ne_true
    | infinity sign =>
        rw [hunpack] at hle
        cases sign with
        | negative => rfl
        | positive => exact absurd hle Bool.false_ne_true
    | zero sign => rfl
    | finite sign m e hm =>
        rw [hunpack] at hle
        cases sign with
        | negative => rfl
        | positive => exact absurd hle Bool.false_ne_true
  exact decide_eq_true hgoal

end Darcbench
