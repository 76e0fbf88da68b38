import Mathlib.Algebra.BigOperators.Group.Finset.Piecewise
import Mathlib.Algebra.BigOperators.Fin
import Mathlib.Algebra.Order.BigOperators.Group.Finset
import Mathlib.Data.Fintype.BigOperators

/-!
# Totals over the parts of a system

A system of finitely many parts moves by changing one part.  A total over the
parts changes by the share of that part.
-/

namespace Darcbench

open scoped BigOperators

variable {ι σ M : Type} [Fintype ι] [DecidableEq ι] [AddCommMonoid M]

/-- Changing one part exchanges its share in the total. -/
theorem sum_update (g : σ → M) (parts : ι → σ) (i : ι) (part : σ) :
    ∑ j, g (Function.update parts i part j) + g (parts i) =
      ∑ j, g (parts j) + g part := by
  rw [← Finset.add_sum_erase _ _ (Finset.mem_univ i),
    ← Finset.add_sum_erase (a := i) _ (fun j => g (parts j))
      (Finset.mem_univ i),
    Function.update_self]
  have hrest : ∑ j ∈ Finset.univ.erase i, g (Function.update parts i part j) =
      ∑ j ∈ Finset.univ.erase i, g (parts j) :=
    Finset.sum_congr rfl fun j hj => by
      rw [Function.update_of_ne (Finset.ne_of_mem_erase hj)]
  rw [hrest, add_right_comm, add_comm (g part), add_right_comm,
    add_right_comm (g (parts i))]

/-- A part with the same share leaves the total as it is. -/
theorem sum_update_of_eq [IsRightCancelAdd M] {g : σ → M} {parts : ι → σ}
    {i : ι} {part : σ} (h : g part = g (parts i)) :
    ∑ j, g (Function.update parts i part j) = ∑ j, g (parts j) := by
  have hsum := sum_update g parts i part
  rw [h] at hsum
  exact add_right_cancel hsum

/-- The lists of all parts, one after another, hold what the parts hold. -/
theorem coe_flatMap_finRange {α : Type} {n : ℕ} (parts : Fin n → List α) :
    (((List.finRange n).flatMap parts : List α) : Multiset α) =
      ∑ i, (parts i : Multiset α) := by
  have hlist : ∀ is : List (Fin n), ((is.flatMap parts : List α) : Multiset α) =
      (is.map fun i => (parts i : Multiset α)).sum := by
    intro is
    induction is with
    | nil => rfl
    | cons i is ih =>
        rw [List.flatMap_cons, ← Multiset.coe_add, ih, List.map_cons,
          List.sum_cons]
  rw [hlist, Fin.sum_univ_def]

end Darcbench
