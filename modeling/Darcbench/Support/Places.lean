import Mathlib.Algebra.Order.Group.Nat
import Mathlib.Data.List.Basic

/-!
# Places in a filtered list

An element that a filter keeps moves forward by as many places as the filter has
dropped before it.
-/

namespace Darcbench

variable {α : Type} {l : List α} {c : α → Bool}

/-- An element that is kept comes after as many as are kept before it. -/
theorem getElem?_filter_countP {i : ℕ} {a : α} (h : l[i]? = some a)
    (ha : c a = true) : (l.filter c)[(l.take i).countP c]? = some a := by
  induction l generalizing i with
  | nil => cases h
  | cons b rest ih =>
      cases i with
      | zero =>
          obtain rfl := Option.some.inj h
          rw [List.filter_cons_of_pos ha]
          rfl
      | succ i =>
          rw [List.getElem?_cons_succ] at h
          rw [List.take_succ_cons, List.countP_cons, List.filter_cons]
          by_cases hb : c b = true
          · rw [if_pos hb, if_pos hb, List.getElem?_cons_succ]
            exact ih h
          · rw [if_neg hb, if_neg hb, Nat.add_zero]
            exact ih h

theorem exists_of_getElem?_filter {k : ℕ} {a : α}
    (h : (l.filter c)[k]? = some a) :
    ∃ i, l[i]? = some a ∧ c a = true ∧ (l.take i).countP c = k := by
  induction l generalizing k with
  | nil => cases h
  | cons b rest ih =>
      by_cases hb : c b = true
      · rw [List.filter_cons_of_pos hb] at h
        cases k with
        | zero =>
            obtain rfl := Option.some.inj h
            exact ⟨0, rfl, hb, rfl⟩
        | succ k =>
            rw [List.getElem?_cons_succ] at h
            obtain ⟨i, hi, ha, hcount⟩ := ih h
            refine ⟨i + 1, hi, ha, ?_⟩
            rw [List.take_succ_cons, List.countP_cons_of_pos hb, hcount]
      · rw [List.filter_cons_of_neg hb] at h
        obtain ⟨i, hi, ha, hcount⟩ := ih h
        refine ⟨i + 1, hi, ha, ?_⟩
        rw [List.take_succ_cons, List.countP_cons_of_neg hb, hcount]

/-- All elements up to a place are kept exactly when the place is kept. -/
theorem forall_le_iff_countP_take {i : ℕ} {a : α} (h : l[i]? = some a)
    (ha : c a = true) :
    (l.take i).countP c = i ↔ ∀ j ≤ i, ∃ b, l[j]? = some b ∧ c b = true := by
  have hlt : i < l.length :=
    List.getElem?_eq_some_iff.mp h |>.1
  have hlength : (l.take i).length = i :=
    List.length_take_of_le hlt.le
  constructor
  · intro hcount j hj
    rcases hj.lt_or_eq with hj | rfl
    · have hall : ∀ b ∈ l.take i, c b = true :=
        List.countP_eq_length.mp (hcount.trans hlength.symm)
      have hjl : j < l.length := hj.trans hlt
      refine ⟨l[j], List.getElem?_eq_getElem hjl, hall _ ?_⟩
      exact List.mem_take_iff_getElem.mpr ⟨j, by omega, rfl⟩
    · exact ⟨a, h, ha⟩
  · intro hall
    refine (List.countP_eq_length.mpr fun b hb => ?_).trans hlength
    obtain ⟨j, hj, rfl⟩ := List.mem_take_iff_getElem.mp hb
    obtain ⟨b, hb, hc⟩ := hall j (by omega)
    rw [List.getElem?_eq_getElem (by omega)] at hb
    obtain rfl := Option.some.inj hb
    exact hc

/-- Places counted among the kept elements are the places in the whole list
exactly when everything is kept up to each of them. -/
theorem places_kept_iff {places : ℕ → Prop} {marked : α → Prop}
    (h : ∀ k, places k ↔ ∃ a, (l.filter c)[k]? = some a ∧ marked a) :
    ((∀ k, places k → ∃ a, l[k]? = some a ∧ c a = true) ∧
      ∀ (i : ℕ) (a : α), l[i]? = some a → c a = true →
        (places i ↔ marked a)) ↔
    ∀ (i : ℕ) (a : α), l[i]? = some a → c a = true → marked a →
      ∀ j ≤ i, ∃ b, l[j]? = some b ∧ c b = true := by
  constructor
  · rintro ⟨hkept, hexact⟩ i a hi ha hmarked
    rw [← forall_le_iff_countP_take hi ha]
    -- The place among the kept elements is marked as well.
    induction i using Nat.strong_induction_on generalizing a with
    | _ i ih =>
        by_contra hne
        have hle : (l.take i).countP c ≤ i :=
          List.countP_le_length.trans (List.length_take_le i l)
        obtain ⟨r, hr⟩ : ∃ r, (l.take i).countP c = r := ⟨_, rfl⟩
        rw [hr] at hle hne
        have hlt : r < i := lt_of_le_of_ne hle hne
        have hplace : places r :=
          (h r).mpr ⟨a, hr ▸ getElem?_filter_countP hi ha, hmarked⟩
        obtain ⟨b, hb, hcb⟩ := hkept r hplace
        have hrank := ih r hlt b hb hcb ((hexact r b hb hcb).mp hplace)
        have hmore : (l.take (r + 1)).countP c ≤ (l.take i).countP c :=
          List.Sublist.countP_le (List.take_sublist_take_left (by omega))
        rw [List.take_add_one, hb, List.countP_append, hrank, hr] at hmore
        simp [hcb] at hmore
  · intro haligned
    refine ⟨fun k hk => ?_, fun i a hi ha => ⟨fun hk => ?_, fun hmarked => ?_⟩⟩
    · obtain ⟨a, hfilter, hmarked⟩ := (h k).mp hk
      obtain ⟨i, hi, ha, hcount⟩ := exists_of_getElem?_filter hfilter
      have hrank := (forall_le_iff_countP_take hi ha).mpr
        (haligned i a hi ha hmarked)
      obtain rfl : i = k := hrank.symm.trans hcount
      exact ⟨a, hi, ha⟩
    · obtain ⟨a', hfilter, hmarked⟩ := (h i).mp hk
      obtain ⟨i', hi', ha', hcount⟩ := exists_of_getElem?_filter hfilter
      have hrank := (forall_le_iff_countP_take hi' ha').mpr
        (haligned i' a' hi' ha' hmarked)
      obtain rfl : i' = i := hrank.symm.trans hcount
      obtain rfl := Option.some.inj (hi.symm.trans hi')
      exact hmarked
    · have hrank := (forall_le_iff_countP_take hi ha).mpr
        (haligned i a hi ha hmarked)
      have hfilter := getElem?_filter_countP hi ha
      rw [hrank] at hfilter
      exact (h i).mpr ⟨a, hfilter, hmarked⟩
end Darcbench
