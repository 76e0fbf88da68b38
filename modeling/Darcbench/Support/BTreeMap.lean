import Darcbench.Support.Lists
import Mathlib.Data.String.Basic
import Mathlib.Order.Compare
import Std.Data.ExtTreeMap

/-!
# Ordered maps

Ordered maps are the extensional tree maps of the standard library under the
comparison of a linear order.  This module adds the facts about their
ascending entry lists that the rest of the development uses.
-/

namespace Darcbench

/-! The order in which the texts of a set are listed. -/

instance stringLeTrans : IsTrans String (· ≤ ·) := inferInstance

instance stringLeAntisymm : Std.Antisymm (fun a b : String => a ≤ b) :=
  inferInstance

/-- Maps iterated in ascending order of their keys. -/
abbrev BTreeMap (κ α : Type) [LinearOrder κ] : Type :=
  Std.ExtTreeMap κ α compare

namespace BTreeMap

variable {κ α β : Type} [LinearOrder κ]

/-- The entries of a map ascend. -/
theorem keys_toList_sorted (m : BTreeMap κ α) :
    (m.toList.map Prod.fst).Pairwise (· < ·) := by
  rw [List.pairwise_map]
  exact Std.ExtTreeMap.ordered_keys_toList.imp fun h =>
    compare_lt_iff_lt.mp h

theorem keys_toList_nodup (m : BTreeMap κ α) :
    (m.toList.map Prod.fst).Nodup :=
  (keys_toList_sorted m).imp fun h => ne_of_lt h

theorem mem_toList_iff {m : BTreeMap κ α} {key : κ} {value : α} :
    (key, value) ∈ m.toList ↔ m[key]? = some value :=
  Std.ExtTreeMap.mem_toList_iff_getElem?_eq_some

theorem mem_keys_toList_iff {m : BTreeMap κ α} {key : κ} :
    key ∈ m.toList.map Prod.fst ↔ m[key]?.isSome = true := by
  rw [Option.isSome_iff_exists, List.mem_map]
  constructor
  · rintro ⟨entry, hentry, rfl⟩
    exact ⟨entry.2, mem_toList_iff.mp hentry⟩
  · rintro ⟨value, hvalue⟩
    exact ⟨(key, value), mem_toList_iff.mpr hvalue, rfl⟩

/-- Exactly one entry satisfies a test that only entries with its key pass. -/
theorem countP_toList_eq_one {m : BTreeMap κ α} {key : κ} {value : α}
    {p : κ × α → Bool} (hvalue : m[key]? = some value)
    (hp : p (key, value) = true)
    (h : ∀ entry ∈ m.toList, p entry = true → entry.1 = key) :
    m.toList.countP p = 1 := by
  have hcount : m.toList.countP p = (m.toList.map Prod.fst).count key := by
    rw [List.count, List.countP_map]
    refine List.countP_congr fun entry hentry => ?_
    rw [Function.comp_apply, beq_iff_eq]
    constructor
    · exact h entry hentry
    · rintro rfl
      rw [mem_toList_iff.mp hentry] at hvalue
      obtain rfl := Option.some.inj hvalue
      exact hp
  rw [hcount]
  refine List.count_eq_one_of_mem (keys_toList_nodup m) ?_
  rw [mem_keys_toList_iff, hvalue]
  rfl

theorem countP_toList_eq_zero {m : BTreeMap κ α} {key : κ} {p : κ × α → Bool}
    (hp : ∀ value, m[key]? = some value → p (key, value) = false)
    (h : ∀ entry ∈ m.toList, p entry = true → entry.1 = key) :
    m.toList.countP p = 0 := by
  rw [List.countP_eq_zero]
  rintro ⟨key', value⟩ hentry hpass
  obtain rfl : key' = key := h _ hentry hpass
  rw [hp value (mem_toList_iff.mp hentry)] at hpass
  exact Bool.false_ne_true hpass

/-- A map built from a list holds none of the other keys. -/
theorem getElem?_ofList_eq_none
    {items : List (κ × α)} {key : κ} (h : key ∉ items.map Prod.fst) :
    (Std.ExtTreeMap.ofList items compare : BTreeMap κ α)[key]? = none := by
  apply Std.ExtTreeMap.getElem?_ofList_of_contains_eq_false
  rw [Bool.eq_false_iff]
  intro hcontains
  exact h (List.contains_iff_mem.mp hcontains)

/-- A map is the map of its own entries. -/
theorem ofList_toList (m : BTreeMap κ α) :
    (Std.ExtTreeMap.ofList m.toList compare : BTreeMap κ α) = m := by
  apply Std.ExtTreeMap.ext_getElem?
  intro key
  cases hkey : m[key]? with
  | some value =>
      exact Std.ExtTreeMap.getElem?_ofList_of_mem (compare_eq_iff_eq.mpr rfl)
        Std.ExtTreeMap.distinct_keys_toList (mem_toList_iff.mpr hkey)
  | none =>
      apply getElem?_ofList_eq_none
      rw [mem_keys_toList_iff, hkey]
      exact Bool.false_ne_true

/-- Looking up a key in the entries reads the map. -/
theorem lookup_toList (m : BTreeMap κ α) (key : κ) :
    m.toList.lookup key = m[key]? := by
  cases hkey : m[key]? with
  | some value =>
      exact lookup_of_mem_of_nodup (keys_toList_nodup m)
        (mem_toList_iff.mpr hkey)
  | none =>
      rw [lookup_eq_none_iff_notMem_keys, mem_keys_toList_iff, hkey]
      exact Bool.false_ne_true

/-- Updating one entry, where an absent entry counts as `default`. -/
theorem getD_alter
    (m : BTreeMap κ α) (key other : κ) [Decidable (other = key)]
    (default : α) (f : α → α) :
    ((Std.ExtTreeMap.alter m key fun a =>
        some (f (a.getD default)))[other]?).getD default =
      if other = key then f (m[key]?.getD default)
      else m[other]?.getD default := by
  rw [Std.ExtTreeMap.getElem?_alter]
  by_cases h : other = key
  · rw [if_pos (compare_eq_iff_eq.mpr h.symm), if_pos h, Option.getD_some]
  · rw [if_neg (fun heq => h (compare_eq_iff_eq.mp heq).symm), if_neg h]

/-- Two maps with related entries at every key list them side by side. -/
theorem forall₂_toList_iff
    {R : α → β → Prop} {m : BTreeMap κ α} {l : BTreeMap κ β} :
    List.Forall₂ (fun a b => a.1 = b.1 ∧ R a.2 b.2) m.toList l.toList ↔
      ∀ key : κ, Option.Rel R m[key]? l[key]? := by
  constructor
  · intro h key
    have hmem : ∀ a, (key, a) ∈ m.toList →
        ∃ b, (key, b) ∈ l.toList ∧ R a b := by
      intro a ha
      obtain ⟨entry, hentry, heq, hrel⟩ := exists_rel_of_forall₂ h ha
      exact ⟨entry.2, by rwa [show key = entry.1 from heq], hrel⟩
    have hmem' : ∀ b, (key, b) ∈ l.toList → ∃ a, (key, a) ∈ m.toList := by
      intro b hb
      obtain ⟨entry, hentry, heq, _⟩ := exists_rel_of_forall₂ h.flip hb
      exact ⟨entry.2, by rwa [show key = entry.1 from heq.symm]⟩
    cases hm : m[key]? with
    | some a =>
        obtain ⟨b, hb, hrel⟩ := hmem a (mem_toList_iff.mpr hm)
        rw [mem_toList_iff.mp hb]
        exact Option.Rel.some hrel
    | none =>
        cases hl : l[key]? with
        | none => exact Option.Rel.none
        | some b =>
            obtain ⟨a, ha⟩ := hmem' b (mem_toList_iff.mpr hl)
            rw [mem_toList_iff.mp ha] at hm
            exact absurd hm (by simp)
  · intro h
    have hkeys : m.toList.map Prod.fst = l.toList.map Prod.fst := by
      have hperm : (m.toList.map Prod.fst).Perm (l.toList.map Prod.fst) := by
        rw [List.perm_ext_iff_of_nodup (keys_toList_nodup m)
          (keys_toList_nodup l)]
        intro key
        rw [mem_keys_toList_iff, mem_keys_toList_iff]
        rw [isSome_eq_of_rel (h key)]
      exact hperm.eq_of_pairwise
        (fun a b _ _ hab hba => absurd hba (not_lt_of_gt hab))
        (keys_toList_sorted m) (keys_toList_sorted l)
    rw [List.forall₂_iff_get]
    have hlength : m.toList.length = l.toList.length := by
      simpa using congrArg List.length hkeys
    refine ⟨hlength, fun i hi hi' => ?_⟩
    have hkey : m.toList[i].1 = l.toList[i].1 := by
      have hmap := List.getElem_of_eq hkeys (i := i)
        (by rwa [List.length_map])
      rwa [List.getElem_map, List.getElem_map] at hmap
    refine ⟨hkey, ?_⟩
    have hm : m[m.toList[i].1]? = some m.toList[i].2 :=
      mem_toList_iff.mp (List.getElem_mem hi)
    have hl : l[m.toList[i].1]? = some l.toList[i].2 := by
      rw [hkey]
      exact mem_toList_iff.mp (List.getElem_mem hi')
    have hrel := h m.toList[i].1
    rw [hm, hl] at hrel
    cases hrel with
    | some hrel => exact hrel

theorem contains_eq_of_rel
    {R : α → β → Prop} {m : BTreeMap κ α} {l : BTreeMap κ β} {key : κ}
    (h : Option.Rel R m[key]? l[key]?) :
    m.contains key = l.contains key := by
  rw [Std.ExtTreeMap.contains_eq_isSome_getElem?,
    Std.ExtTreeMap.contains_eq_isSome_getElem?]
  exact isSome_eq_of_rel h

/-- What a map holds after insertions was inserted or was there before. -/
theorem mem_of_getElem?_insertMany
    {m : BTreeMap κ α} {items : List (κ × α)} {key : κ} {value : α}
    (h : (m.insertMany items)[key]? = some value) :
    (key, value) ∈ items ∨ m[key]? = some value := by
  rw [Std.ExtTreeMap.getElem?_insertMany_list, Option.or_eq_some_iff] at h
  rcases h with h | ⟨_, h⟩
  · left
    rw [List.findSomeRev?_eq_findSome?_reverse] at h
    obtain ⟨⟨key', value'⟩, hentry, hvalue⟩ :=
      List.exists_of_findSome?_eq_some h
    dsimp only at hvalue
    split at hvalue
    · next hkey =>
        obtain rfl : key' = key := compare_eq_iff_eq.mp hkey
        obtain rfl : value' = value := Option.some.inj hvalue
        exact List.mem_reverse.mp hentry
    · exact absurd hvalue (by simp)
  · exact Or.inr h

/-- What a map built from a list holds was in the list. -/
theorem mem_of_getElem?_ofList
    {items : List (κ × α)} {key : κ} {value : α}
    (h : (Std.ExtTreeMap.ofList items compare : BTreeMap κ α)[key]? =
      some value) :
    (key, value) ∈ items := by
  rw [Std.ExtTreeMap.ofList_eq_insertMany_empty] at h
  rcases mem_of_getElem?_insertMany h with h | h
  · exact h
  · rw [Std.ExtTreeMap.getElem?_empty] at h
    exact absurd h (by simp)

/-- A map built from a list without repeated keys holds what the list holds. -/
theorem getElem?_ofList_of_mem
    {items : List (κ × α)} (hnodup : (items.map Prod.fst).Nodup)
    {key : κ} {value : α} (h : (key, value) ∈ items) :
    (Std.ExtTreeMap.ofList items compare : BTreeMap κ α)[key]? =
      some value := by
  refine Std.ExtTreeMap.getElem?_ofList_of_mem (compare_eq_iff_eq.mpr rfl)
    ?_ h
  rw [List.Nodup, List.pairwise_map] at hnodup
  exact hnodup.imp fun hne heq => hne (compare_eq_iff_eq.mp heq)

end BTreeMap

end Darcbench
