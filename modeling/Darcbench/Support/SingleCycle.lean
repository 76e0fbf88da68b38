import Mathlib.Data.List.Iterate
import Mathlib.Data.List.Rotate

/-!
# Walks along a single cycle

A step that leads from each element of a list to the one behind it, and from the
last to the first, walks through the whole list before it comes back.
-/

namespace Darcbench

variable {α : Type}

/-- The step leads through the list, and from its end to its beginning. -/
def LeadsThrough (f : α → α) (order : List α) : Prop :=
  ∀ k < order.length, order[k]?.map f = order[(k + 1) % order.length]?

namespace LeadsThrough

variable {f : α → α} {order : List α}

theorem iterate (h : LeadsThrough f order) {j : ℕ} (hj : j < order.length)
    (k : ℕ) : order[j]?.map f^[k] = order[(j + k) % order.length]? := by
  induction k with
  | zero =>
      rw [Nat.add_zero, Nat.mod_eq_of_lt hj, Function.iterate_zero,
        Option.map_id, id]
  | succ k ih =>
      have hstep := h ((j + k) % order.length)
        (Nat.mod_lt _ (Nat.zero_lt_of_lt hj))
      rw [Function.iterate_succ', ← Option.map_map, ih, hstep,
        Nat.mod_add_mod, Nat.add_assoc]

/-- As many steps as the list is long visit its elements in their order. -/
theorem iterate_eq_rotate (h : LeadsThrough f order) {start : α} {j : ℕ}
    (hstart : order[j]? = some start) :
    List.iterate f start order.length = order.rotate j := by
  have hj : j < order.length := (List.getElem?_eq_some_iff.mp hstart).1
  refine List.ext_getElem? fun k => ?_
  by_cases hk : k < order.length
  · have hvisit := h.iterate hj k
    rw [hstart, Option.map_some] at hvisit
    rw [List.getElem?_iterate _ _ _ _ hk, hvisit, List.getElem?_rotate hk,
      Nat.add_comm]
  · rw [List.getElem?_eq_none (by simpa using Nat.not_lt.mp hk),
      List.getElem?_eq_none (by simpa using Nat.not_lt.mp hk)]

theorem mem_of_mem (h : LeadsThrough f order) {start : α}
    (hstart : start ∈ order) (k : ℕ) : f^[k] start ∈ order := by
  obtain ⟨j, hj⟩ := List.mem_iff_getElem?.mp hstart
  have hvisit := h.iterate (List.getElem?_eq_some_iff.mp hj).1 k
  rw [hj, Option.map_some] at hvisit
  exact List.mem_of_getElem? hvisit.symm

/-- Wherever the walk starts, it visits every element of the list once. -/
theorem iterate_perm (h : LeadsThrough f order) {start : α}
    (hstart : start ∈ order) :
    (List.iterate f start order.length).Perm order := by
  obtain ⟨j, hj⟩ := List.mem_iff_getElem?.mp hstart
  rw [h.iterate_eq_rotate hj]
  exact List.rotate_perm order j

/-- Whatever part of a walk is as long as the list visits every element of it
once. -/
theorem window_perm (h : LeadsThrough f order) {start : α}
    (hstart : start ∈ order) {first steps : ℕ}
    (hle : first + order.length ≤ steps) :
    (((List.iterate f start steps).drop first).take order.length).Perm
      order := by
  obtain ⟨more, rfl⟩ := Nat.exists_eq_add_of_le hle
  rw [List.iterate_add, List.iterate_add, List.append_assoc,
    List.drop_left' (List.length_iterate _ _ _),
    List.take_left' (List.length_iterate _ _ _)]
  exact h.iterate_perm (h.mem_of_mem hstart first)

/-- No part of a walk that is no longer than the list visits an element
twice. -/
theorem window_nodup (h : LeadsThrough f order) (hnodup : order.Nodup)
    {start : α} (hstart : start ∈ order) (first steps : ℕ) :
    (((List.iterate f start steps).drop first).take order.length).Nodup := by
  have hsub : (((List.iterate f start steps).drop first).take
      order.length).Sublist (((List.iterate f start
        (steps + (first + order.length))).drop first).take order.length) := by
    rw [List.iterate_add]
    rw [List.drop_append, List.take_append]
    exact List.sublist_append_left _ _
  refine hsub.nodup ((h.window_perm hstart ?_).nodup_iff.mpr hnodup)
  exact Nat.le_add_left _ _

end LeadsThrough

end Darcbench
