import Mathlib.Data.List.Nodup
import Mathlib.Order.Defs.LinearOrder
import Mathlib.Order.Lattice

/-!
# Stable deduplication

The loop that keeps the first occurrence of every item, in order.
-/

namespace Darcbench

variable {α : Type} [DecidableEq α]

/-- One step of the loop: an item that was seen before is skipped. -/
def keepFirst (seen : List α) (item : α) : List α :=
  if seen.contains item then seen else seen ++ [item]

/-- Keeps the first occurrence of every item. -/
def stableDedup (items : List α) : List α :=
  items.foldl keepFirst []

theorem mem_keepFirst {seen : List α} {item a : α} :
    a ∈ keepFirst seen item ↔ a ∈ seen ∨ a = item := by
  rw [keepFirst]
  split
  · next h =>
      have hmem : item ∈ seen := by simpa using h
      exact ⟨Or.inl, fun h => h.elim id fun heq => heq ▸ hmem⟩
  · simp

theorem nodup_keepFirst {seen : List α} {item : α} (h : seen.Nodup) :
    (keepFirst seen item).Nodup := by
  rw [keepFirst]
  split
  · exact h
  · next hseen =>
      have hnotin : item ∉ seen := by simpa using hseen
      rw [List.nodup_append]
      refine ⟨h, List.nodup_singleton item, ?_⟩
      intro a ha b hb heq
      rw [List.mem_singleton.mp hb] at heq
      exact hnotin (heq ▸ ha)

theorem mem_foldl_keepFirst {items seen : List α} {a : α} :
    a ∈ items.foldl keepFirst seen ↔ a ∈ seen ∨ a ∈ items := by
  induction items generalizing seen with
  | nil => simp
  | cons item rest ih =>
      rw [List.foldl_cons, ih, mem_keepFirst, List.mem_cons, or_assoc]

theorem nodup_foldl_keepFirst {items seen : List α} (h : seen.Nodup) :
    (items.foldl keepFirst seen).Nodup := by
  induction items generalizing seen with
  | nil => exact h
  | cons item rest ih => exact ih (nodup_keepFirst h)

/-- Deduplication loses no item and invents none. -/
theorem mem_stableDedup {items : List α} {a : α} :
    a ∈ stableDedup items ↔ a ∈ items := by
  rw [stableDedup, mem_foldl_keepFirst]
  simp

theorem nodup_stableDedup (items : List α) : (stableDedup items).Nodup :=
  nodup_foldl_keepFirst List.nodup_nil

theorem stableDedup_eq_nil_iff {items : List α} :
    stableDedup items = [] ↔ items = [] := by
  simp only [List.eq_nil_iff_forall_not_mem, mem_stableDedup]

/-- A predicate holds of a kept item exactly if it holds of some item. -/
theorem any_stableDedup {items : List α} {p : α → Bool} :
    (stableDedup items).any p = items.any p := by
  rw [Bool.eq_iff_iff]
  simp only [List.any_eq_true, mem_stableDedup]

/-! ## Neighbours -/

/-- Leaves out every item that equals the one after it. -/
def dedupNeighbours : List α → List α
  | [] => []
  | [a] => [a]
  | a :: b :: rest =>
      if a = b then dedupNeighbours (b :: rest)
      else a :: dedupNeighbours (b :: rest)

@[simp] theorem mem_dedupNeighbours {a : α} {items : List α} :
    a ∈ dedupNeighbours items ↔ a ∈ items := by
  induction items using dedupNeighbours.induct with
  | case1 => rfl
  | case2 b => rfl
  | case3 b rest ih =>
      rw [dedupNeighbours, if_pos rfl, ih]
      simp
  | case4 b c rest hne ih =>
      rw [dedupNeighbours, if_neg hne, List.mem_cons, ih,
        ← List.mem_cons]

/-- In ascending items no item is left twice. -/
theorem dedupNeighbours_pairwise_lt {α : Type} [LinearOrder α]
    {items : List α} (h : items.Pairwise (· ≤ ·)) :
    (dedupNeighbours items).Pairwise (· < ·) := by
  induction items using dedupNeighbours.induct with
  | case1 => exact List.Pairwise.nil
  | case2 a => exact List.pairwise_singleton _ a
  | case3 a rest ih =>
      rw [dedupNeighbours, if_pos rfl]
      exact ih h.of_cons
  | case4 a b rest hne ih =>
      rw [dedupNeighbours, if_neg hne, List.pairwise_cons]
      refine ⟨?_, ih h.of_cons⟩
      intro c hc
      rw [mem_dedupNeighbours] at hc
      have hab : a < b :=
        lt_of_le_of_ne (List.rel_of_pairwise_cons h List.mem_cons_self) hne
      rcases List.mem_cons.mp hc with rfl | hmem
      · exact hab
      · exact lt_of_lt_of_le hab (List.rel_of_pairwise_cons h.of_cons hmem)

end Darcbench
