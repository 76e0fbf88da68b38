import Darcbench.Support.Lists
import Mathlib.Data.Finset.Sort
import Mathlib.Data.String.Basic

/-!
# Extensional JSON trees

A JSON object is a finite family of values indexed by its set of keys, so the
order in which the members were written and repeated keys are not
representable.  The type of numbers is a parameter: what a number may be is
decided by the program that uses the tree.
-/

namespace Darcbench

/-- A JSON tree whose numbers are drawn from `N`. -/
inductive Json (N : Type) where
  | null
  | bool (value : Bool)
  | number (value : N)
  | string (value : String)
  | array (items : List (Json N))
  | object (keys : Finset String) (vals : {key // key ∈ keys} → Json N)

namespace Json

variable {N : Type}

/-- The object with the given members.  The first binding of a key counts. -/
def ofFields (fields : List (String × Json N)) : Json N :=
  object (fields.map Prod.fst).toFinset fun key =>
    (fields.lookup key.1).getD null

/-- The member stored under `key`, if the tree is an object that has it. -/
def get? : Json N → String → Option (Json N)
  | object keys vals, key =>
      if h : key ∈ keys then some (vals ⟨key, h⟩) else none
  | _, _ => none

instance memberLeTrans (keys : Finset String) :
    IsTrans {key // key ∈ keys} (· ≤ ·) :=
  inferInstance

instance memberLeAntisymm (keys : Finset String) :
    Std.Antisymm fun a b : {key // key ∈ keys} => a ≤ b :=
  inferInstance

instance memberLeTotal (keys : Finset String) :
    Std.Total fun a b : {key // key ∈ keys} => a ≤ b :=
  inferInstance

/-- The members of an object in ascending order of their keys. -/
def entries : Json N → Option (List (String × Json N))
  | object keys vals =>
      some ((keys.attach.sort (· ≤ ·)).map fun key => (key.1, vals key))
  | _ => none

@[simp] theorem get?_ofFields
    (fields : List (String × Json N)) (key : String) :
    (ofFields fields).get? key = fields.lookup key := by
  by_cases hmem : key ∈ fields.map Prod.fst
  · obtain ⟨value, hvalue⟩ := Option.ne_none_iff_exists'.mp
      (fun h => (lookup_eq_none_iff_notMem_keys fields key).mp h hmem)
    have hkeys : key ∈ (fields.map Prod.fst).toFinset :=
      List.mem_toFinset.mpr hmem
    rw [ofFields, get?, dif_pos hkeys, hvalue]
    rfl
  · have hkeys : key ∉ (fields.map Prod.fst).toFinset :=
      fun h => hmem (List.mem_toFinset.mp h)
    rw [ofFields, get?, dif_neg hkeys]
    exact ((lookup_eq_none_iff_notMem_keys fields key).mpr hmem).symm

/-- Members written in ascending order of distinct keys are read back as they
were written. -/
theorem entries_ofFields_of_sorted
    {fields : List (String × Json N)}
    (hsorted : (fields.map Prod.fst).Pairwise (· < ·)) :
    (ofFields fields).entries = some fields := by
  have hnodup : (fields.map Prod.fst).Nodup :=
    hsorted.imp fun h => ne_of_lt h
  let keys : Finset String := (fields.map Prod.fst).toFinset
  have hkeys : (keys.attach.sort (· ≤ ·)).map Subtype.val =
      fields.map Prod.fst := by
    have hsortedKeys : ((keys.attach.sort (· ≤ ·)).map Subtype.val).Pairwise
        (· ≤ ·) := by
      rw [List.pairwise_map]
      exact (Finset.pairwise_sort keys.attach (· ≤ ·)).imp fun h => h
    have hsortedFields : (fields.map Prod.fst).Pairwise (· ≤ ·) :=
      hsorted.imp fun h => le_of_lt h
    have hperm : ((keys.attach.sort (· ≤ ·)).map Subtype.val).Perm
        (fields.map Prod.fst) := by
      apply (List.perm_ext_iff_of_nodup _ hnodup).mpr
      · intro key
        simp [keys]
      · exact (Finset.sort_nodup keys.attach (· ≤ ·)).map
          Subtype.val_injective
    exact hperm.eq_of_pairwise
      (fun a b _ _ hab hba => le_antisymm hab hba)
      hsortedKeys hsortedFields
  have hentry : ∀ entry ∈ fields,
      (entry.1, (fields.lookup entry.1).getD null) = entry := by
    intro entry hmem
    have hmem' : (entry.1, entry.2) ∈ fields := hmem
    rw [lookup_of_mem_of_nodup hnodup hmem']
    rfl
  calc
    (ofFields fields).entries =
        some (((keys.attach.sort (· ≤ ·)).map Subtype.val).map
          fun key => (key, (fields.lookup key).getD null)) := by
      rw [List.map_map]
      rfl
    _ = some ((fields.map Prod.fst).map
          fun key => (key, (fields.lookup key).getD null)) := by
      rw [hkeys]
    _ = some fields := by
      rw [List.map_map, Option.some.injEq]
      exact (List.map_congr_left hentry).trans (List.map_id _)

end Json

end Darcbench
