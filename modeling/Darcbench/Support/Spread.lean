import Mathlib.Algebra.Order.BigOperators.Group.List
import Mathlib.Data.Real.Basic
import Mathlib.Tactic.FieldSimp
import Mathlib.Tactic.Linarith
import Mathlib.Tactic.Ring

/-!
# The mean of a list of numbers and the spread around it

Both depend on every number of the list: the mean on each of them, and the
spread on each that is not alone.
-/

namespace Darcbench.Spread

/-- The sum of the squared deviations from the mean. -/
noncomputable def squaredDeviations (xs : List ℝ) : ℝ :=
  (xs.map fun v => (v - xs.sum / xs.length) ^ 2).sum

theorem sum_map_sub_sq (xs : List ℝ) (m : ℝ) :
    (xs.map fun v => (v - m) ^ 2).sum =
      (xs.map fun v => v ^ 2).sum - 2 * m * xs.sum + xs.length * m ^ 2 := by
  induction xs with
  | nil => simp
  | cons x xs ih =>
      rw [List.map_cons, List.sum_cons, ih, List.map_cons, List.sum_cons,
        List.sum_cons, List.length_cons, Nat.cast_succ]
      ring

theorem squaredDeviations_eq {xs : List ℝ} (h : xs ≠ []) :
    squaredDeviations xs =
      (xs.map fun v => v ^ 2).sum - xs.sum ^ 2 / xs.length := by
  have hlength : (xs.length : ℝ) ≠ 0 :=
    Nat.cast_ne_zero.mpr fun hzero => h (List.eq_nil_of_length_eq_zero hzero)
  rw [squaredDeviations, sum_map_sub_sq]
  field_simp
  ring

theorem squaredDeviations_nonneg (xs : List ℝ) :
    0 ≤ squaredDeviations xs := by
  apply List.sum_nonneg
  intro a ha
  obtain ⟨v, -, rfl⟩ := List.mem_map.mp ha
  exact sq_nonneg _

variable {before after : List ℝ}

/-- The mean tells the values of a number apart. -/
theorem mean_injective {x y : ℝ}
    (h : (before ++ x :: after).sum / (before ++ x :: after).length =
      (before ++ y :: after).sum / (before ++ y :: after).length) :
    x = y := by
  have hlength : ((before.length + (after.length + 1) : ℕ) : ℝ) ≠ 0 :=
    Nat.cast_ne_zero.mpr (Nat.succ_ne_zero _)
  simp only [List.sum_append, List.sum_cons, List.length_append,
    List.length_cons] at h
  rw [div_left_inj' hlength] at h
  linarith

/-- A number that is not alone has three values that the spread does not
give alike. -/
theorem not_squaredDeviations_const (h : before ++ after ≠ []) {s : ℝ}
    (hconst : ∀ x, squaredDeviations (before ++ x :: after) = s) : False := by
  have hlength : 2 ≤ before.length + (after.length + 1) := by
    have hpos : 0 < (before ++ after).length :=
      List.length_pos_of_ne_nil h
    rw [List.length_append] at hpos
    omega
  have hn : (2 : ℝ) ≤ (before.length + (after.length + 1) : ℕ) :=
    Nat.ofNat_le_cast.mpr hlength
  have hvalue : ∀ x : ℝ, squaredDeviations (before ++ x :: after) =
      ((before.map fun v => v ^ 2).sum + (x ^ 2 +
        (after.map fun v => v ^ 2).sum)) -
      (before.sum + (x + after.sum)) ^ 2 /
        (before.length + (after.length + 1) : ℕ) := by
    intro x
    rw [squaredDeviations_eq (by simp)]
    simp only [List.map_append, List.map_cons, List.sum_append, List.sum_cons,
      List.length_append, List.length_cons]
  generalize ((before.length + (after.length + 1) : ℕ) : ℝ) = n at hn hvalue
  have hpos : 0 < n := by linarith
  have hzero := (hvalue 0).symm.trans (hconst 0)
  have hone := (hvalue 1).symm.trans (hconst 1)
  have hneg := (hvalue (-1)).symm.trans (hconst (-1))
  field_simp at hzero hone hneg
  nlinarith

end Darcbench.Spread
