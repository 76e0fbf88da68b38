import Mathlib.Data.Nat.Bitwise

/-!
# Whole blocks

Clearing the low bits of a number of 64 bits rounds it down to a multiple of a
power of two.
-/

namespace Darcbench

theorem and_mask_eq {bytes : ℕ} (h : bytes < 2 ^ 64) {k : ℕ} (hk : k ≤ 64) :
    bytes &&& (2 ^ 64 - 1 - (2 ^ k - 1)) = bytes / 2 ^ k * 2 ^ k := by
  have hmask : 2 ^ 64 - 1 - (2 ^ k - 1) = (2 ^ (64 - k) - 1) * 2 ^ k := by
    have hpower : 2 ^ (64 - k) * 2 ^ k = 2 ^ 64 := by
      rw [← Nat.pow_add, Nat.sub_add_cancel hk]
    have hpos : 0 < 2 ^ k := Nat.two_pow_pos k
    rw [Nat.sub_mul, Nat.one_mul, hpower]
    omega
  rw [hmask]
  refine Nat.eq_of_testBit_eq fun i => ?_
  rw [Nat.testBit_and, Nat.testBit_mul_two_pow, Nat.testBit_mul_two_pow,
    Nat.testBit_div_two_pow, Nat.testBit_two_pow_sub_one]
  by_cases hlow : k ≤ i
  · have hi : i - k + k = i := Nat.sub_add_cancel hlow
    rw [decide_eq_true hlow, Bool.true_and, Bool.true_and, hi]
    by_cases hhigh : i - k < 64 - k
    · rw [decide_eq_true hhigh, Bool.and_true]
    · have hzero : bytes.testBit i = false :=
        Nat.testBit_lt_two_pow
          (h.trans_le (Nat.pow_le_pow_right Nat.zero_lt_two (by omega)))
      rw [hzero, Bool.false_and]
  · rw [decide_eq_false hlow, Bool.false_and, Bool.and_false, Bool.false_and]

end Darcbench
