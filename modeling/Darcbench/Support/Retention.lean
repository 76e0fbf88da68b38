import Mathlib.Data.List.Basic

/-!
# Keeping the newest items

A sequence loses its first items that satisfy a test, up to a number of them.
The items that fail the test all stay, and of the others the last ones stay.
-/

namespace Darcbench

variable {α : Type}

/-- The items without the first `n` ones that satisfy `p`. -/
def dropFirst (p : α → Bool) : ℕ → List α → List α
  | _, [] => []
  | 0, a :: rest => a :: rest
  | n + 1, a :: rest =>
      if p a = true then dropFirst p n rest else a :: dropFirst p (n + 1) rest

variable {p : α → Bool}

@[simp] theorem dropFirst_zero (items : List α) :
    dropFirst p 0 items = items := by
  cases items <;> rfl

theorem dropFirst_cons_pos {a : α} (h : p a = true) (n : ℕ)
    (rest : List α) :
    dropFirst p (n + 1) (a :: rest) = dropFirst p n rest :=
  if_pos h

theorem dropFirst_cons_neg {a : α} (h : ¬ p a = true) (n : ℕ)
    (rest : List α) :
    dropFirst p n (a :: rest) = a :: dropFirst p n rest := by
  cases n with
  | zero => rw [dropFirst_zero, dropFirst_zero]
  | succ n => exact if_neg h

theorem dropFirst_sublist (n : ℕ) (items : List α) :
    (dropFirst p n items).Sublist items := by
  induction items generalizing n with
  | nil => exact List.Sublist.refl _
  | cons a rest ih =>
      by_cases h : p a = true
      · cases n with
        | zero =>
            rw [dropFirst_zero]
        | succ n =>
            rw [dropFirst_cons_pos h]
            exact (ih n).cons a
      · rw [dropFirst_cons_neg h]
        exact (ih n).cons_cons a

/-- Of the items that satisfy the test, the last ones stay. -/
theorem filter_dropFirst (n : ℕ) (items : List α) :
    (dropFirst p n items).filter p = (items.filter p).drop n := by
  induction items generalizing n with
  | nil => exact List.drop_nil.symm
  | cons a rest ih =>
      by_cases h : p a = true
      · cases n with
        | zero => rw [dropFirst_zero, List.drop_zero]
        | succ n =>
            rw [dropFirst_cons_pos h, ih, List.filter_cons_of_pos h,
              List.drop_succ_cons]
      · rw [dropFirst_cons_neg h, List.filter_cons_of_neg h, ih,
          List.filter_cons_of_neg h]

/-- The items that fail the test all stay. -/
theorem mem_dropFirst {a : α} (hp : ¬ p a = true) (n : ℕ) {items : List α}
    (ha : a ∈ items) :
    a ∈ dropFirst p n items := by
  induction items generalizing n with
  | nil => exact absurd ha List.not_mem_nil
  | cons b rest ih =>
      by_cases h : p b = true
      · have hrest : a ∈ rest := by
          rcases List.mem_cons.mp ha with rfl | hrest
          · exact absurd h hp
          · exact hrest
        cases n with
        | zero => rwa [dropFirst_zero]
        | succ n =>
            rw [dropFirst_cons_pos h]
            exact ih n hrest
      · rw [dropFirst_cons_neg h]
        rcases List.mem_cons.mp ha with rfl | hrest
        · exact List.mem_cons_self
        · exact List.mem_cons_of_mem _ (ih n hrest)

/-- The items that are dropped lie before all those of their kind that
stay. -/
theorem filter_eq_take_append (n : ℕ) (items : List α) :
    items.filter p =
      (items.filter p).take n ++ (dropFirst p n items).filter p := by
  rw [filter_dropFirst, List.take_append_drop]

/-- An item that does not stay is one of the first of its kind. -/
theorem mem_take_of_notMem_dropFirst {a : α} (n : ℕ) {items : List α}
    (ha : a ∈ items) (hdropped : a ∉ dropFirst p n items) :
    a ∈ (items.filter p).take n := by
  have hp : p a = true := by
    by_contra hp
    exact hdropped (mem_dropFirst hp n ha)
  have hmem : a ∈ items.filter p := List.mem_filter.mpr ⟨ha, hp⟩
  rw [filter_eq_take_append n items, List.mem_append] at hmem
  exact hmem.resolve_right fun h => hdropped (List.mem_filter.mp h).1

end Darcbench
