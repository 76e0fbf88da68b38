import Mathlib.Data.List.Sort
import Mathlib.Order.Basic

/-!
# Order statistics of a list

Where a value stands in an ascending list is a matter of how many values are
below it.  A strict majority of the values keeps the middle of the list within
the interval that it lies in.
-/

namespace Darcbench.OrderStatistics

variable {α : Type*} [LinearOrder α] {sorted : List α} {a b : α}

theorem getElem_le_getElem (h : sorted.Pairwise (· ≤ ·)) {i j : ℕ}
    (hij : i ≤ j) (hj : j < sorted.length) : sorted[i] ≤ sorted[j] := by
  rcases hij.eq_or_lt with rfl | hlt
  · exact le_rfl
  · exact List.pairwise_iff_getElem.mp h i j _ hj hlt

/-- A value with few values below it does not stand above the next one. -/
theorem le_getElem (h : sorted.Pairwise (· ≤ ·)) {k : ℕ}
    (hk : k < sorted.length) (hcount : sorted.countP (decide <| · < a) ≤ k) :
    a ≤ sorted[k] := by
  by_contra hlt
  have hbelow : ∀ x ∈ sorted.take (k + 1), decide (x < a) = true := by
    intro x hx
    obtain ⟨i, hi, rfl⟩ := List.mem_take_iff_getElem.mp hx
    exact decide_eq_true
      ((getElem_le_getElem h (by omega) hk).trans_lt (not_le.mp hlt))
  have hall : (sorted.take (k + 1)).countP (decide <| · < a) = k + 1 := by
    rw [List.countP_eq_length.mpr hbelow, List.length_take]
    omega
  have hle := (List.take_sublist (k + 1) sorted).countP_le
    (p := (decide <| · < a))
  omega

theorem getElem_le (h : sorted.Pairwise (· ≤ ·)) {k : ℕ}
    (hk : k < sorted.length)
    (hcount : sorted.countP (decide <| b < ·) + k < sorted.length) :
    sorted[k] ≤ b := by
  by_contra hlt
  have habove : ∀ x ∈ sorted.drop k, decide (b < x) = true := by
    intro x hx
    obtain ⟨i, hi, rfl⟩ := List.mem_drop_iff_getElem.mp hx
    exact decide_eq_true
      ((not_le.mp hlt).trans_le
        (getElem_le_getElem h (Nat.le_add_right k i) (by omega)))
  have hall : (sorted.drop k).countP (decide <| b < ·) =
      sorted.length - k := by
    rw [List.countP_eq_length.mpr habove, List.length_drop]
  have hle := (List.drop_sublist k sorted).countP_le
    (p := (decide <| b < ·))
  omega

/-- How many values of a list lie in an interval. -/
def countWithin (a b : α) (values : List α) : ℕ :=
  values.countP fun x => decide (a ≤ x ∧ x ≤ b)

theorem countWithin_add_le (values : List α) {p : α → Bool}
    (hp : ∀ x, p x = true → ¬ (a ≤ x ∧ x ≤ b)) :
    countWithin a b values + values.countP p ≤ values.length := by
  have hmono : values.countP p ≤
      values.countP fun x => decide ¬ (decide (a ≤ x ∧ x ≤ b) = true) :=
    List.countP_mono_left fun x _ hx =>
      decide_eq_true fun h => hp x hx (of_decide_eq_true h)
  have hlength := List.length_eq_countP_add_countP
    (fun x => decide (a ≤ x ∧ x ≤ b)) (l := values)
  rw [countWithin]
  omega

/-- The middle of an ascending list lies where most of its values lie. -/
theorem getElem_within (h : sorted.Pairwise (· ≤ ·))
    (hmajority : sorted.length < 2 * countWithin a b sorted) {k : ℕ}
    (hk : k < sorted.length) (hlow : sorted.length ≤ 2 * (k + 1))
    (hhigh : 2 * k ≤ sorted.length) : a ≤ sorted[k] ∧ sorted[k] ≤ b := by
  have hbelow : countWithin a b sorted + sorted.countP (decide <| · < a) ≤
      sorted.length :=
    countWithin_add_le sorted fun x hx hwithin =>
      (of_decide_eq_true hx).not_ge hwithin.1
  have habove : countWithin a b sorted + sorted.countP (decide <| b < ·) ≤
      sorted.length :=
    countWithin_add_le sorted fun x hx hwithin =>
      (of_decide_eq_true hx).not_ge hwithin.2
  exact ⟨le_getElem h hk (by omega), getElem_le h hk (by omega)⟩

theorem countWithin_eq_of_perm {values values' : List α}
    (h : values.Perm values') :
    countWithin a b values = countWithin a b values' :=
  h.countP_eq _

/-- The values in an interval go to values in another. -/
theorem countWithin_le_map {β : Type*} [LinearOrder β] {c d : β} (f : α → β)
    (hf : ∀ x, a ≤ x → x ≤ b → c ≤ f x ∧ f x ≤ d) (values : List α) :
    countWithin a b values ≤ countWithin c d (values.map f) := by
  rw [countWithin, countWithin, List.countP_map]
  refine List.countP_mono_left fun x _ hx => ?_
  obtain ⟨ha, hb⟩ := of_decide_eq_true hx
  exact decide_eq_true (hf x ha hb)

/-! ## The middle of a list -/

/-- The two middle values of a list in ascending order, which are the same value
of a list of odd length. -/
def IsMiddles (low high : α) (values : List α) : Prop :=
  ∃ sorted : List α, sorted.Perm values ∧ sorted.Pairwise (· ≤ ·) ∧
    sorted[(values.length - 1) / 2]? = some low ∧
    sorted[values.length / 2]? = some high

section Middles

variable {low high : α} {values : List α}

theorem exists_isMiddles (h : values ≠ []) :
    ∃ low high, IsMiddles low high values := by
  have hpos := List.length_pos_iff.mpr h
  let sorted := values.mergeSort fun a b => decide (a ≤ b)
  have hlength : sorted.length = values.length := List.length_mergeSort values
  refine ⟨_, _, sorted, List.mergeSort_perm _ _, List.pairwise_mergeSort' _ _,
    List.getElem?_eq_getElem (by omega), List.getElem?_eq_getElem (by omega)⟩

namespace IsMiddles

theorem low_mem (h : IsMiddles low high values) : low ∈ values := by
  obtain ⟨sorted, hperm, -, hlow, -⟩ := h
  exact hperm.mem_iff.mp (List.mem_of_getElem? hlow)

theorem high_mem (h : IsMiddles low high values) : high ∈ values := by
  obtain ⟨sorted, hperm, -, -, hhigh⟩ := h
  exact hperm.mem_iff.mp (List.mem_of_getElem? hhigh)

theorem unique {low' high' : α} (h : IsMiddles low high values)
    (h' : IsMiddles low' high' values) : low = low' ∧ high = high' := by
  obtain ⟨sorted, hperm, hsorted, hlow, hhigh⟩ := h
  obtain ⟨sorted', hperm', hsorted', hlow', hhigh'⟩ := h'
  obtain rfl : sorted = sorted' :=
    (hperm.trans hperm'.symm).eq_of_pairwise' hsorted hsorted'
  exact ⟨Option.some.inj (hlow.symm.trans hlow'),
    Option.some.inj (hhigh.symm.trans hhigh')⟩

/-- The order of the list does not matter. -/
theorem perm {values' : List α} (h : IsMiddles low high values)
    (hvalues : values.Perm values') : IsMiddles low high values' := by
  obtain ⟨sorted, hperm, hsorted, hlow, hhigh⟩ := h
  exact ⟨sorted, hperm.trans hvalues, hsorted, hvalues.length_eq ▸ hlow,
    hvalues.length_eq ▸ hhigh⟩

variable {β : Type*} [LinearOrder β] {f : α → β}

theorem map (h : IsMiddles low high values)
    (hf : ∀ a ∈ values, ∀ b ∈ values, a ≤ b → f a ≤ f b) :
    IsMiddles (f low) (f high) (values.map f) := by
  obtain ⟨sorted, hperm, hsorted, hlow, hhigh⟩ := h
  refine ⟨sorted.map f, hperm.map f, ?_, ?_, ?_⟩
  · rw [List.pairwise_map]
    exact hsorted.imp_of_mem fun ha hb hab =>
      hf _ (hperm.mem_iff.mp ha) _ (hperm.mem_iff.mp hb) hab
  · rw [List.length_map, List.getElem?_map, hlow, Option.map_some]
  · rw [List.length_map, List.getElem?_map, hhigh, Option.map_some]

/-- A map that reverses the order exchanges the middle values. -/
theorem map_reverse (h : IsMiddles low high values)
    (hf : ∀ a ∈ values, ∀ b ∈ values, a ≤ b → f b ≤ f a) :
    IsMiddles (f high) (f low) (values.map f) := by
  obtain ⟨sorted, hperm, hsorted, hlow, hhigh⟩ := h
  have hlength := hperm.length_eq
  obtain ⟨hinside, -⟩ := List.getElem?_eq_some_iff.mp hhigh
  refine ⟨(sorted.map f).reverse,
    (List.reverse_perm _).trans (hperm.map f), ?_, ?_, ?_⟩
  · rw [List.pairwise_reverse, List.pairwise_map]
    exact hsorted.imp_of_mem fun ha hb hab =>
      hf _ (hperm.mem_iff.mp ha) _ (hperm.mem_iff.mp hb) hab
  · have hindex : sorted.length - 1 - (values.length - 1) / 2 =
        values.length / 2 := by omega
    rw [List.length_map, List.getElem?_reverse (by rw [List.length_map]; omega),
      List.length_map, hindex, List.getElem?_map, hhigh, Option.map_some]
  · have hindex : sorted.length - 1 - values.length / 2 =
        (values.length - 1) / 2 := by omega
    rw [List.length_map, List.getElem?_reverse (by rw [List.length_map]; omega),
      List.length_map, hindex, List.getElem?_map, hlow, Option.map_some]

end IsMiddles

end Middles

end Darcbench.OrderStatistics
