import Darcbench.Scoring.ExactMeans
import Darcbench.Scoring.Model

/-!
# Ratios in exact arithmetic

A raw value has a ratio exactly if the value and the anchor are positive
numbers, whatever the direction of the anchor.
-/

namespace Darcbench

/-- The ratio of a value to an anchor, larger for better performance. -/
noncomputable def Direction.ratio (direction : Direction)
    (value reference : ℝ) : ℝ :=
  match direction with
  | .higherIsBetter => value / reference
  | .lowerIsBetter => reference / value

theorem Direction.ratio_pos
    (direction : Direction) {value reference : ℝ}
    (hvalue : 0 < value) (hreference : 0 < reference) :
    0 < direction.ratio value reference := by
  cases direction with
  | higherIsBetter => exact div_pos hvalue hreference
  | lowerIsBetter => exact div_pos hreference hvalue

theorem normalise_fin
    (direction : Direction) {value reference : ℝ}
    (hvalue : 0 < value) (hreference : 0 < reference) :
    normalise (Exact.fin value) (Exact.fin reference) direction =
      some (Exact.fin (direction.ratio value reference)) := by
  have hle : ¬ (Exact.fin reference ≤ 0.0) := by
    rw [Exact.zero_eq, Exact.fin_le_fin]
    exact not_le.mpr hreference
  have hle' : ¬ (Exact.fin value ≤ 0.0) := by
    rw [Exact.zero_eq, Exact.fin_le_fin]
    exact not_le.mpr hvalue
  have hratio := direction.ratio_pos hvalue hreference
  unfold normalise
  simp only [Exact.isFinite_fin, hle, decide_false, Bool.not_true,
    Bool.or_false, Bool.false_eq_true, if_false]
  cases direction with
  | higherIsBetter =>
      dsimp only
      rw [Exact.fin_div_fin _ hreference.ne', Exact.zero_eq]
      exact if_pos ⟨Exact.isFinite_fin _, hratio⟩
  | lowerIsBetter =>
      dsimp only
      rw [if_neg hle', Exact.fin_div_fin _ hvalue.ne', Exact.zero_eq]
      exact if_pos ⟨Exact.isFinite_fin _, hratio⟩

/-- Only positive numbers have a ratio. -/
theorem normalise_eq_some_iff
    {value reference : Exact} {direction : Direction} {ratio : Exact} :
    normalise value reference direction = some ratio ↔
      ∃ x y, 0 < x ∧ 0 < y ∧ value = .fin x ∧ reference = .fin y ∧
        ratio = .fin (direction.ratio x y) := by
  constructor
  · intro h
    have hsome := h
    unfold normalise at h
    split at h
    · exact absurd h (by simp)
    · next hguard =>
        simp only [Bool.or_eq_true, Bool.not_eq_true', not_or,
          Bool.not_eq_false, decide_eq_true_eq] at hguard
        obtain ⟨⟨hvalue, hreference⟩, hreference'⟩ := hguard
        obtain ⟨x, rfl⟩ := Exact.isFinite_eq_true_iff.mp hvalue
        obtain ⟨y, hy, rfl⟩ :=
          (Exact.exists_pos_iff _).mp ⟨hreference, hreference'⟩
        have hx : 0 < x := by
          cases direction with
          | higherIsBetter =>
              dsimp only at h
              rw [Exact.fin_div_fin _ hy.ne', Exact.zero_eq] at h
              split at h
              · next hratio => exact (div_pos_iff_of_pos_right hy).mp hratio.2
              · exact absurd h (by simp)
          | lowerIsBetter =>
              dsimp only at h
              split at h
              · exact absurd h (by simp)
              · next hpos =>
                  rw [Exact.zero_eq, Exact.fin_le_fin] at hpos
                  exact not_le.mp hpos
        rw [normalise_fin direction hx hy] at hsome
        exact ⟨x, y, hx, hy, rfl, rfl, (Option.some.inj hsome).symm⟩
  · rintro ⟨x, y, hx, hy, rfl, rfl, rfl⟩
    exact normalise_fin direction hx hy

end Darcbench
