import Darcbench.Protocol.Float
import Mathlib.Analysis.SpecialFunctions.Log.Basic

/-!
# Exact arithmetic

The real numbers with the three values that a floating-point computation can
produce besides numbers.  No operation rounds; an operation without a real
result gives the special value that the floating-point standard assigns.  Zero
has no sign.
-/

namespace Darcbench

/-! What the numerals of the reals rest on, by name. -/

theorem atLeastTwo_two : Nat.AtLeastTwo 2 := ⟨le_rfl⟩

theorem atLeastTwo_ten : Nat.AtLeastTwo 10 := ⟨by omega⟩

/-- A real number, or what a computation without a real result yields. -/
inductive Exact where
  | fin (value : ℝ)
  | inf
  | negInf
  | nan

namespace Exact

noncomputable section

open Classical in
/-- The infinity with the sign of `x`, and no number for `x = 0`. -/
def signedInf (x : ℝ) : Exact :=
  if 0 < x then inf else if x < 0 then negInf else nan

def neg : Exact → Exact
  | fin x => fin (-x)
  | inf => negInf
  | negInf => inf
  | nan => nan

def add : Exact → Exact → Exact
  | fin x, fin y => fin (x + y)
  | inf, fin _ | fin _, inf | inf, inf => inf
  | negInf, fin _ | fin _, negInf | negInf, negInf => negInf
  | _, _ => nan

def mul : Exact → Exact → Exact
  | fin x, fin y => fin (x * y)
  | fin x, inf | inf, fin x => signedInf x
  | fin x, negInf | negInf, fin x => signedInf (-x)
  | inf, inf | negInf, negInf => inf
  | inf, negInf | negInf, inf => negInf
  | _, _ => nan

open Classical in
def div : Exact → Exact → Exact
  | fin x, fin y => if y = 0 then signedInf x else fin (x / y)
  | fin _, inf | fin _, negInf => fin 0
  | inf, fin y => if y < 0 then negInf else inf
  | negInf, fin y => if y < 0 then inf else negInf
  | _, _ => nan

def lt : Exact → Exact → Prop
  | fin x, fin y => x < y
  | negInf, fin _ | negInf, inf | fin _, inf => True
  | _, _ => False

def le : Exact → Exact → Prop
  | fin x, fin y => x ≤ y
  | negInf, fin _ | negInf, inf | fin _, inf => True
  | inf, inf | negInf, negInf => True
  | _, _ => False

def abs : Exact → Exact
  | fin x => fin |x|
  | inf | negInf => inf
  | nan => nan

open Classical in
def ln : Exact → Exact
  | fin x => if 0 < x then fin (Real.log x) else if x = 0 then negInf else nan
  | inf => inf
  | _ => nan

def exp : Exact → Exact
  | fin x => fin (Real.exp x)
  | inf => inf
  | negInf => fin 0
  | nan => nan

open Classical in
/-- Numbers between the infinities, and `nan` last. -/
def totalLe : Exact → Exact → Bool
  | _, nan => true
  | nan, _ => false
  | a, b => decide (le a b)

def isFinite : Exact → Bool
  | fin _ => true
  | _ => false

instance : F64 Exact where
  add := add
  sub a b := add a (neg b)
  mul := mul
  div := div
  lt := lt
  le := le
  ofScientific mantissa sign exponent :=
    fin (OfScientific.ofScientific mantissa sign exponent)
  decidableLT _ _ := Classical.propDecidable _
  decidableLE _ _ := Classical.propDecidable _
  ofNat n := fin n
  isFinite := isFinite
  abs := abs
  ln := ln
  exp := exp
  totalLe := totalLe
  isFinite_zero := rfl

open Classical in
def sqrt : Exact → Exact
  | fin x => if 0 ≤ x then fin (Real.sqrt x) else nan
  | inf => inf
  | _ => nan

instance : F64.Sqrt Exact where
  sqrt := sqrt

end

/-! ## Operations on numbers -/

@[simp] theorem fin_add_fin (x y : ℝ) : fin x + fin y = fin (x + y) := rfl

@[simp] theorem fin_sub_fin (x y : ℝ) : fin x - fin y = fin (x - y) :=
  congrArg fin (sub_eq_add_neg x y).symm

@[simp] theorem fin_mul_fin (x y : ℝ) : fin x * fin y = fin (x * y) := rfl

theorem fin_div_fin (x : ℝ) {y : ℝ} (h : y ≠ 0) :
    fin x / fin y = fin (x / y) :=
  if_neg h

theorem fin_mul_inf {x : ℝ} (h : 0 < x) : fin x * inf = inf :=
  if_pos h

theorem fin_mul_negInf {x : ℝ} (h : 0 < x) : fin x * negInf = negInf := by
  have hneg : ¬ 0 < -x := not_lt.mpr (neg_nonpos.mpr h.le)
  change signedInf (-x) = negInf
  rw [signedInf, if_neg hneg, if_pos (neg_neg_of_pos h)]

@[simp] theorem fin_lt_fin (x y : ℝ) : fin x < fin y ↔ x < y := Iff.rfl

@[simp] theorem fin_le_fin (x y : ℝ) : fin x ≤ fin y ↔ x ≤ y := Iff.rfl

@[simp] theorem ofNat_eq (n : ℕ) : (F64.ofNat n : Exact) = fin n := rfl

@[simp] theorem abs_fin (x : ℝ) : F64.abs (fin x) = fin |x| := rfl

theorem ln_fin {x : ℝ} (h : 0 < x) :
    F64.ln (fin x) = fin (Real.log x) :=
  if_pos h

@[simp] theorem exp_fin (x : ℝ) : F64.exp (fin x) = fin (Real.exp x) := rfl

theorem sqrt_fin {x : ℝ} (h : 0 ≤ x) :
    F64.Sqrt.sqrt (fin x) = fin (Real.sqrt x) :=
  if_pos h

@[simp] theorem isFinite_fin (x : ℝ) : F64.isFinite (fin x) = true := rfl

theorem isFinite_eq_true_iff {a : Exact} :
    F64.isFinite a = true ↔ ∃ x, a = fin x := by
  cases a with
  | fin x => exact ⟨fun _ => ⟨x, rfl⟩, fun _ => rfl⟩
  | _ =>
      constructor
      · intro h
        exact absurd h Bool.false_ne_true
      · rintro ⟨x, hx⟩
        exact absurd hx (by simp)

theorem ofScientific_eq (mantissa : ℕ) (sign : Bool) (exponent : ℕ) :
    (OfScientific.ofScientific mantissa sign exponent : Exact) =
      fin (OfScientific.ofScientific mantissa sign exponent) :=
  rfl

theorem zero_eq : (0.0 : Exact) = fin 0 := by
  rw [ofScientific_eq]
  norm_num

theorem one_eq : (1.0 : Exact) = fin 1 := by
  rw [ofScientific_eq]
  norm_num

theorem hundred_eq : (100.0 : Exact) = fin 100 := by
  rw [ofScientific_eq]
  norm_num

@[simp] theorem isNan_fin (x : ℝ) : F64.isNan (fin x) = false := by
  simp [F64.isNan]

@[simp] theorem min_fin (x y : ℝ) :
    F64.min (fin x) (fin y) = fin (min x y) := by
  simp only [F64.min, isNan_fin, Bool.false_eq_true, if_false, fin_lt_fin]
  split
  · next h => rw [min_eq_right h.le]
  · next h => rw [min_eq_left (not_lt.mp h)]

@[simp] theorem min_fin_inf (x : ℝ) : F64.min (fin x) inf = fin x := by
  rw [F64.min, isNan_fin]
  exact if_neg fun h => h

@[simp] theorem min_fin_negInf (x : ℝ) : F64.min (fin x) negInf = negInf := by
  rw [F64.min, isNan_fin]
  exact if_pos trivial

@[simp] theorem min_fin_nan (x : ℝ) : F64.min (fin x) nan = fin x := by
  rw [F64.min, isNan_fin]
  exact if_neg fun h => h

@[simp] theorem isNan_inf : F64.isNan inf = false := by
  rw [F64.isNan, decide_eq_true (show inf ≤ inf from trivial)]
  rfl

@[simp] theorem isNan_negInf : F64.isNan negInf = false := by
  rw [F64.isNan, decide_eq_true (show negInf ≤ negInf from trivial)]
  rfl

@[simp] theorem isNan_nan : F64.isNan nan = true := by
  rw [F64.isNan, decide_eq_false (show ¬ nan ≤ nan from fun h => h)]
  rfl

@[simp] theorem min_inf_fin (x : ℝ) : F64.min inf (fin x) = fin x := by
  rw [F64.min, isNan_inf]
  exact if_pos trivial

@[simp] theorem min_negInf_fin (x : ℝ) : F64.min negInf (fin x) = negInf := by
  rw [F64.min, isNan_negInf]
  exact if_neg fun h => h

@[simp] theorem min_nan (a : Exact) : F64.min nan a = a := by
  rw [F64.min, isNan_nan]
  rfl

@[simp] theorem max_fin (x y : ℝ) :
    F64.max (fin x) (fin y) = fin (max x y) := by
  simp only [F64.max, isNan_fin, Bool.false_eq_true, if_false, fin_lt_fin]
  split
  · next h => rw [max_eq_right h.le]
  · next h => rw [max_eq_left (not_lt.mp h)]

/-- A number within the limits is left as it is. -/
theorem clamp_fin {x low high : ℝ} (hlow : low ≤ x) (hhigh : x ≤ high) :
    F64.clamp (fin x) (fin low) (fin high) = fin x :=
  (if_neg (not_lt.mpr hlow)).trans (if_neg (not_lt.mpr hhigh))

@[simp] theorem totalLe_fin (x y : ℝ) :
    F64.totalLe (fin x) (fin y) = decide (x ≤ y) :=
  decide_eq_decide.mpr Iff.rfl

/-- A sum of numbers is the sum of the real numbers. -/
theorem sum_map_fin (values : List ℝ) :
    F64.sum (values.map fin) = fin values.sum := by
  have hfold : ∀ (acc : ℝ) (rest : List ℝ),
      (rest.map fin).foldl (· + ·) (fin acc) = fin (acc + rest.sum) := by
    intro acc rest
    induction rest generalizing acc with
    | nil => simp
    | cons x rest ih =>
        rw [List.map_cons, List.foldl_cons, fin_add_fin, ih,
          List.sum_cons, add_assoc]
  rw [F64.sum, zero_eq, hfold, zero_add]

theorem exists_map_fin
    {values : List Exact} (h : ∀ a ∈ values, ∃ x, a = fin x) :
    ∃ xs : List ℝ, values = xs.map fin := by
  have hrange : values ∈ Set.range (List.map fin) := by
    rw [Set.range_list_map]
    intro a ha
    obtain ⟨x, rfl⟩ := h a ha
    exact ⟨x, rfl⟩
  obtain ⟨xs, rfl⟩ := hrange
  exact ⟨xs, rfl⟩

theorem exists_sum_eq_fin
    {values : List Exact} (h : ∀ a ∈ values, ∃ x, a = fin x) :
    ∃ x, F64.sum values = fin x := by
  obtain ⟨xs, rfl⟩ := exists_map_fin h
  exact ⟨_, sum_map_fin xs⟩

end Exact

end Darcbench
