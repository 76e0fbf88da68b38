import Mathlib.Algebra.BigOperators.Group.List.Basic
import Mathlib.Algebra.GroupWithZero.Nat
import Mathlib.Data.Nat.Notation

/-!
# Saturating arithmetic on 64-bit counters

Sums of counters clamp at the largest value instead of wrapping.  Clamping at
every step and clamping once at the end give the same sum, since counters only
grow.
-/

namespace Darcbench

/-- The largest 64-bit counter. -/
def u64Max : ℕ := 2 ^ 64 - 1

def saturatingAdd (a b : UInt64) : UInt64 :=
  UInt64.ofNat (min (a.toNat + b.toNat) u64Max)

def saturatingSub (a b : UInt64) : UInt64 :=
  if b ≤ a then a - b else 0

theorem toNat_le_u64Max (a : UInt64) : a.toNat ≤ u64Max :=
  Nat.le_sub_one_of_lt a.toNat_lt

@[simp] theorem toNat_saturatingAdd (a b : UInt64) :
    (saturatingAdd a b).toNat = min (a.toNat + b.toNat) u64Max := by
  have hlt : min (a.toNat + b.toNat) u64Max < 2 ^ 64 :=
    Nat.lt_of_le_pred (by decide) (Nat.min_le_right _ _)
  rw [saturatingAdd, UInt64.toNat_ofNat', Nat.mod_eq_of_lt hlt]

@[simp] theorem toNat_saturatingSub (a b : UInt64) :
    (saturatingSub a b).toNat = a.toNat - b.toNat := by
  rw [saturatingSub]
  split
  · next h => exact UInt64.toNat_sub_of_le a b h
  · next h =>
      have hlt : a.toNat < b.toNat :=
        UInt64.lt_iff_toNat_lt.mp (UInt64.not_le.mp h)
      exact (Nat.sub_eq_zero_of_le (Nat.le_of_lt hlt)).symm

/-- A fold that adds a number at every step, clamping each time, clamps the
sum of these numbers. -/
theorem toNat_foldl_eq_min
    {α : Type} {f : UInt64 → α → UInt64} (amount : α → ℕ)
    (hstep : ∀ acc a, (f acc a).toNat = min (acc.toNat + amount a) u64Max)
    (items : List α) (acc : UInt64) :
    (items.foldl f acc).toNat =
      min (acc.toNat + (items.map amount).sum) u64Max := by
  induction items generalizing acc with
  | nil => exact (Nat.min_eq_left (toNat_le_u64Max acc)).symm
  | cons a rest ih =>
      rw [List.foldl_cons, ih, hstep, List.map_cons, List.sum_cons]
      omega

end Darcbench
