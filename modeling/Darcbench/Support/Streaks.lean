import Mathlib.Data.List.DropRight
import Mathlib.Data.Nat.Notation

/-!
# Streaks

The streak of a sequence is the number of its last items that satisfy a test
without a break.  A counter that is incremented when the test holds and cleared
when it fails counts the streak.
-/

namespace Darcbench

variable {α β : Type}

/-- How many of the last items satisfy `q` without a break. -/
def streak (q : α → Bool) (items : List α) : ℕ :=
  (items.rtakeWhile q).length

/-- The last `n` items all satisfy `q`. -/
def Sustained (n : ℕ) (q : α → Bool) (items : List α) : Prop :=
  ∃ late, late <:+ items ∧ late.length = n ∧ ∀ a ∈ late, q a = true

/-- The counter of an event that did or did not happen once more. -/
def tally (happened : Bool) (count : ℕ) : ℕ :=
  if happened = true then count + 1 else 0

@[simp] theorem streak_nil (q : α → Bool) : streak q [] = 0 := rfl

theorem streak_concat (q : α → Bool) (items : List α) (a : α) :
    streak q (items ++ [a]) = tally (q a) (streak q items) := by
  rw [streak, List.rtakeWhile_concat, tally]
  split
  · rw [List.length_append, List.length_singleton]
    rfl
  · rfl

theorem streak_concat_pos {q : α → Bool} {a : α} (h : q a = true)
    (items : List α) :
    streak q (items ++ [a]) = streak q items + 1 := by
  rw [streak_concat, tally, if_pos h]

theorem streak_concat_neg {q : α → Bool} {a : α} (h : ¬ q a = true)
    (items : List α) :
    streak q (items ++ [a]) = 0 := by
  rw [streak_concat, tally, if_neg h]

theorem streak_le_length (q : α → Bool) (items : List α) :
    streak q items ≤ items.length :=
  (List.rtakeWhile_suffix q items).length_le

theorem sustained_iff_le_streak {n : ℕ} {q : α → Bool} {items : List α} :
    Sustained n q items ↔ n ≤ streak q items := by
  induction items using List.reverseRecOn generalizing n with
  | nil =>
      constructor
      · rintro ⟨late, hlate, rfl, -⟩
        rw [List.suffix_nil.mp hlate]
        exact le_rfl
      · intro h
        exact ⟨[], List.suffix_rfl, (Nat.le_zero.mp h).symm,
          List.forall_mem_nil _⟩
  | append_singleton items a ih =>
      rw [streak_concat, tally]
      by_cases hn : n = 0
      · subst hn
        exact ⟨fun _ => Nat.zero_le _,
          fun _ => ⟨[], List.nil_suffix, rfl, List.forall_mem_nil _⟩⟩
      · obtain ⟨m, rfl⟩ := Nat.exists_eq_succ_of_ne_zero hn
        have hlast : Sustained (m + 1) q (items ++ [a]) ↔
            q a = true ∧ Sustained m q items := by
          constructor
          · rintro ⟨late, hlate, hlength, hall⟩
            rw [List.suffix_concat_iff] at hlate
            rcases hlate with rfl | ⟨late, rfl, hlate⟩
            · exact absurd hlength (by simp)
            · rw [List.length_append, List.length_singleton,
                Nat.add_right_cancel_iff] at hlength
              refine ⟨hall a (by simp), late, hlate, hlength, ?_⟩
              intro b hb
              exact hall b (List.mem_append_left _ hb)
          · rintro ⟨ha, late, hlate, rfl, hall⟩
            refine ⟨late ++ [a], ?_, by simp, ?_⟩
            · exact List.suffix_concat_iff.mpr (.inr ⟨late, rfl, hlate⟩)
            · intro b hb
              rcases List.mem_append.mp hb with hb | hb
              · exact hall b hb
              · rwa [List.mem_singleton.mp hb]
        rw [hlast, ih]
        by_cases ha : q a = true
        · rw [if_pos ha]
          exact ⟨fun h => Nat.succ_le_succ h.2,
            fun h => ⟨ha, Nat.le_of_succ_le_succ h⟩⟩
        · rw [if_neg ha]
          exact ⟨fun h => absurd h.1 ha,
            fun h => absurd h (Nat.not_succ_le_zero m)⟩

/-- An item of a sequence is its last one, or lies before the last one. -/
theorem concat_eq_append_cons {items before after : List α} {a b : α}
    (h : items ++ [a] = before ++ b :: after) :
    (items = before ∧ a = b) ∨ ∃ rest, items = before ++ b :: rest := by
  induction after using List.reverseRecOn with
  | nil =>
      obtain ⟨hitems, hlast⟩ := List.append_inj' h rfl
      exact .inl ⟨hitems, List.singleton_inj.mp hlast⟩
  | append_singleton rest c ih =>
      rw [← List.cons_append, ← List.append_assoc] at h
      exact .inr ⟨rest, (List.append_inj' h rfl).1⟩

theorem filterMap_concat_some {f : α → Option β} {a : α} {b : β}
    (h : f a = some b) (items : List α) :
    (items ++ [a]).filterMap f = items.filterMap f ++ [b] := by
  rw [List.filterMap_append, List.filterMap_cons_some h, List.filterMap_nil]

theorem filterMap_concat_none {f : α → Option β} {a : α}
    (h : f a = none) (items : List α) :
    (items ++ [a]).filterMap f = items.filterMap f := by
  rw [List.filterMap_append, List.filterMap_cons_none h, List.filterMap_nil,
    List.append_nil]

/-- A streak of items that carry a reading is a streak of the readings. -/
theorem streak_le_streak_filterMap {q : α → Bool} {f : α → Option β}
    {r : β → Bool} (h : ∀ a, q a = true → ∃ b, f a = some b ∧ r b = true)
    (items : List α) :
    streak q items ≤ streak r (items.filterMap f) := by
  induction items using List.reverseRecOn with
  | nil => exact le_rfl
  | append_singleton items a ih =>
      by_cases ha : q a = true
      · obtain ⟨b, hb, hr⟩ := h a ha
        rw [streak_concat_pos ha, filterMap_concat_some hb,
          streak_concat_pos hr]
        exact Nat.succ_le_succ ih
      · rw [streak_concat_neg ha]
        exact Nat.zero_le _

/-! ## Insertions -/

/-- The longer sequence arises from the shorter one by insertions of items that
carry nothing. -/
inductive Inserted (carries : α → Bool) : List α → List α → Prop
  | nil : Inserted carries [] []
  | keep {fewer more : List α} (h : Inserted carries fewer more) (a : α) :
      Inserted carries (fewer ++ [a]) (more ++ [a])
  | insert {fewer more : List α} (h : Inserted carries fewer more) {a : α}
      (ha : carries a = false) : Inserted carries fewer (more ++ [a])

namespace Inserted

variable {carries : α → Bool} {fewer more : List α}

theorem subset (h : Inserted carries fewer more) : fewer ⊆ more := by
  induction h with
  | nil => exact List.Subset.refl _
  | keep h a ih =>
      exact List.append_subset.mpr
        ⟨List.subset_append_of_subset_left _ ih, List.subset_append_right _ _⟩
  | insert h ha ih => exact List.subset_append_of_subset_left _ ih

/-- Items that carry nothing add no reading. -/
theorem filterMap_eq {f : α → Option β}
    (hf : ∀ a, carries a = false → f a = none)
    (h : Inserted carries fewer more) :
    more.filterMap f = fewer.filterMap f := by
  induction h with
  | nil => rfl
  | keep h a ih => rw [List.filterMap_append, List.filterMap_append, ih]
  | insert h ha ih => rw [filterMap_concat_none (hf _ ha), ih]

/-- Items that fail the test can only break a streak. -/
theorem streak_le {q : α → Bool} (hq : ∀ a, carries a = false → ¬ q a = true)
    (h : Inserted carries fewer more) :
    streak q more ≤ streak q fewer := by
  induction h with
  | nil => exact le_rfl
  | keep h a ih =>
      by_cases ha : q a = true
      · rw [streak_concat_pos ha, streak_concat_pos ha]
        exact Nat.succ_le_succ ih
      · rw [streak_concat_neg ha]
        exact Nat.zero_le _
  | insert h ha ih =>
      rw [streak_concat_neg (hq _ ha)]
      exact Nat.zero_le _

end Inserted

end Darcbench
