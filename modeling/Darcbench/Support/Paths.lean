import Darcbench.Support.Json
import Darcbench.Support.Words

/-!
# Dotted paths into JSON trees

A dotted key is read as a sequence of keys, each of which may itself have dots.
The search splits it at the first dot only, after it tried the key as a whole.
-/

namespace Darcbench

namespace Json

variable {N : Type}

/-! ## Splits of a key -/

/-- The keys, joined by dots, are the given key. -/
inductive Splits : List Char → List (List Char) → Prop
  | last (key : List Char) : Splits key [key]
  | cons (head : List Char) {rest : List Char} {keys : List (List Char)} :
      Splits rest keys → Splits (head ++ '.' :: rest) (head :: keys)

theorem Splits.ne_nil {key : List Char} {keys : List (List Char)}
    (h : Splits key keys) : keys ≠ [] := by
  cases h with
  | last => exact List.cons_ne_nil _ _
  | cons => exact List.cons_ne_nil _ _

theorem splits_iff {key : List Char} {keys : List (List Char)} :
    Splits key keys ↔ keys ≠ [] ∧ ['.'].intercalate keys = key := by
  constructor
  · intro h
    refine ⟨h.ne_nil, ?_⟩
    induction h with
    | last key => simp
    | cons head h ih =>
        obtain ⟨first, rest, rfl⟩ := List.exists_cons_of_ne_nil h.ne_nil
        rw [List.intercalate_cons_cons, ih, List.append_assoc]
        rfl
  · rintro ⟨hne, rfl⟩
    induction keys with
    | nil => exact absurd rfl hne
    | cons head rest ih =>
        cases rest with
        | nil =>
            simpa using Splits.last head
        | cons second rest =>
            rw [List.intercalate_cons_cons, List.append_assoc]
            exact .cons head (ih (List.cons_ne_nil _ _))

/-- No key has a dot, except perhaps the last one. -/
def DotsLast (keys : List (List Char)) : Prop :=
  ∀ key ∈ keys.dropLast, '.' ∉ key

/-! ## Following keys -/

/-- The value under the keys, one level after the other. -/
def follow (value : Json N) : List (List Char) → Option (Json N)
  | [] => some value
  | key :: keys =>
      (value.get? (String.ofList key)).bind fun inner => inner.follow keys

/-- Tries the whole remaining key at each level before it descends. -/
def walk (value : Json N) (key : List Char) : Option (Json N) :=
  match value.get? (String.ofList key) with
  | some found => some found
  | none =>
      match _h : Words.splitOnce '.' key with
      | none => none
      | some (head, rest) =>
          match value.get? (String.ofList head) with
          | none => none
          | some inner => inner.walk rest
termination_by key.length
decreasing_by
  exact Words.length_lt_of_splitOnce _h

/-- What the search returns is under a split without dots above the last key. -/
theorem exists_follow_of_walk {value found : Json N} {key : List Char}
    (h : value.walk key = some found) :
    ∃ keys, Splits key keys ∧ DotsLast keys ∧
      value.follow keys = some found := by
  rw [walk] at h
  cases hwhole : value.get? (String.ofList key) with
  | some inner =>
      rw [hwhole] at h
      refine ⟨[key], .last key, List.forall_mem_nil _, ?_⟩
      rw [follow, hwhole]
      exact h
  | none =>
      rw [hwhole] at h
      dsimp only at h
      split at h
      · exact absurd h (by simp)
      · next head rest hsplit =>
          obtain ⟨rfl, hdot⟩ := Words.splitOnce_eq_some_iff.mp hsplit
          cases hhead : value.get? (String.ofList head) with
          | none =>
              rw [hhead] at h
              exact absurd h (by simp)
          | some inner =>
              rw [hhead] at h
              obtain ⟨keys, hkeys, hlast, hfollow⟩ := exists_follow_of_walk h
              refine ⟨head :: keys, .cons head hkeys, ?_, ?_⟩
              · rw [DotsLast, List.dropLast_cons_of_ne_nil hkeys.ne_nil]
                exact List.forall_mem_cons.mpr ⟨hdot, hlast⟩
              · rw [follow, hhead]
                exact hfollow
termination_by key.length
decreasing_by
  exact Words.length_lt_of_splitOnce (by assumption)

/-- A split without dots above the last key is found. -/
theorem walk_isSome_of_follow {value found : Json N} {key : List Char}
    {keys : List (List Char)} (hsplits : Splits key keys)
    (hlast : DotsLast keys) (h : value.follow keys = some found) :
    (value.walk key).isSome = true := by
  induction hsplits generalizing value with
  | last key =>
      rw [follow, Option.bind_eq_some_iff] at h
      obtain ⟨inner, hinner, -⟩ := h
      rw [walk, hinner]
      rfl
  | @cons head rest keys hkeys ih =>
      rw [follow, Option.bind_eq_some_iff] at h
      obtain ⟨inner, hinner, hfollow⟩ := h
      rw [DotsLast, List.dropLast_cons_of_ne_nil hkeys.ne_nil,
        List.forall_mem_cons] at hlast
      obtain ⟨hdot, hlast⟩ := hlast
      have hfirst : Words.splitOnce '.' (head ++ '.' :: rest) =
          some (head, rest) :=
        Words.splitOnce_eq_some_iff.mpr ⟨rfl, hdot⟩
      rw [walk]
      split
      · rfl
      · split
        · next hsplit => exact absurd (hfirst.symm.trans hsplit) (by simp)
        · next hsplit =>
            rw [hfirst] at hsplit
            obtain ⟨rfl, rfl⟩ := Prod.mk.inj (Option.some.inj hsplit)
            rw [hinner]
            exact ih hlast hfollow

theorem walk_isSome_iff (value : Json N) (key : List Char) :
    (value.walk key).isSome = true ↔
      ∃ keys, Splits key keys ∧ DotsLast keys ∧
        (value.follow keys).isSome = true := by
  constructor
  · intro h
    obtain ⟨found, hfound⟩ := Option.isSome_iff_exists.mp h
    obtain ⟨keys, hkeys, hlast, hfollow⟩ := exists_follow_of_walk hfound
    exact ⟨keys, hkeys, hlast, hfollow ▸ rfl⟩
  · rintro ⟨keys, hkeys, hlast, hfollow⟩
    obtain ⟨found, hfound⟩ := Option.isSome_iff_exists.mp hfollow
    exact walk_isSome_of_follow hkeys hlast hfound

end Json

end Darcbench
