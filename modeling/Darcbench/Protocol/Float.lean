import Mathlib.Algebra.Group.Int.Defs
import Mathlib.Algebra.Group.Nat.Defs
import Mathlib.Data.Int.Notation
import Mathlib.Data.Nat.Notation
import Mathlib.Order.Defs.LinearOrder

/-!
# Floating-point arithmetic as a parameter

The scoring code computes with 64-bit floating-point numbers.  Definitions
translated from it are written once, over any type with the operations of
`F64`, in the order in which the source performs them.  The class has no law
but that zero is finite: a theorem stated for every `F64` type holds of machine
arithmetic, and the theorems about exact arithmetic are stated for the instance
`Exact`.
-/

namespace Darcbench

/-- The operations of the primitive type `f64` that the source uses. -/
class F64 (F : Type) extends Add F, Sub F, Mul F, Div F, LT F, LE F,
    OfScientific F where
  decidableLT : DecidableLT F
  decidableLE : DecidableLE F
  /-- The conversion `as f64` from an unsigned integer. -/
  ofNat : ℕ → F
  isFinite : F → Bool
  abs : F → F
  ln : F → F
  exp : F → F
  /-- Whether `total_cmp` does not put the first argument last. -/
  totalLe : F → F → Bool
  isFinite_zero : isFinite 0.0 = true

attribute [reducible, instance] F64.decidableLT F64.decidableLE

namespace F64

variable {F : Type} [F64 F]

/-- A NaN is not even comparable with itself. -/
def isNan (a : F) : Bool :=
  !decide (a ≤ a)

def min (a b : F) : F :=
  if isNan a then b else if b < a then b else a

def max (a b : F) : F :=
  if isNan a then b else if a < b then b else a

/-- The constant `EPSILON`. -/
def epsilon : F :=
  2.220446049250313e-16

/-- A NaN passes through, since it satisfies neither comparison. -/
def clamp (a low high : F) : F :=
  if a < low then low else if high < a then high else a

def sum (values : List F) : F :=
  values.foldl (· + ·) 0.0

/-- Ascending stable sort by `partial_cmp`, where incomparable values count
as equal. -/
def sortPartial (values : List F) : List F :=
  values.mergeSort fun a b => !decide (b < a)

/-- Ascending stable sort by `total_cmp`. -/
def sortTotal (values : List F) : List F :=
  values.mergeSort totalLe

/-- The middle of an ascending list, or the mean of the two middle values. -/
def medianOfSorted (sorted : List F) : Option F :=
  if sorted.length % 2 = 1 then
    sorted[sorted.length / 2]?
  else do
    let low ← sorted[sorted.length / 2 - 1]?
    let high ← sorted[sorted.length / 2]?
    some ((low + high) / 2.0)

/-- The place of a bit pattern in the order of `total_cmp`. -/
def totalOrderKey (a : Float) : ℤ :=
  let bits : ℤ := a.toBits.toNat
  if bits < 2 ^ 63 then bits else 2 ^ 63 - 1 - bits

end F64

instance : F64 Float where
  decidableLT := inferInstance
  decidableLE := inferInstance
  ofNat := Float.ofNat
  isFinite := Float.isFinite
  abs := Float.abs
  ln := Float.log
  exp := Float.exp
  totalLe a b := F64.totalOrderKey a ≤ F64.totalOrderKey b
  isFinite_zero := by decide

/-! ## Further operations -/

/-- The square root, which not all of the code needs. -/
class F64.Sqrt (F : Type) where
  sqrt : F → F

instance : F64.Sqrt Float where
  sqrt := Float.sqrt

/-- The constant `NEG_INFINITY`. -/
def F64.negInfinity {F : Type} [F64 F] : F :=
  (0.0 - 1.0) / 0.0

/-! ## Positive values -/

/-- No positive value is also at most zero. -/
class F64.ComparesZero (F : Type) [F64 F] : Prop where
  not_le_zero : ∀ a : F, 0.0 < a → ¬ a ≤ 0.0

namespace F64

variable {F : Type} [F64 F]

/-- The value passes the check for positive finite numbers. -/
def IsPositive (a : F) : Prop :=
  isFinite a = true ∧ 0.0 < a

open Float.Model in
/-- Comparison with a zero of machine arithmetic. -/
theorem not_le_zero_of_zero_lt
    (sign : UnpackedFloat.Sign) {a : UnpackedFloat}
    (h : (UnpackedFloat.zero sign).lt a = true) :
    a.le (UnpackedFloat.zero sign) = false := by
  cases a with
  | finite sign' mantissa exponent hmantissa =>
      cases sign' with
      | positive => rfl
      | negative => exact absurd h Bool.false_ne_true
  | infinity sign' =>
      cases sign' with
      | positive => rfl
      | negative => exact absurd h Bool.false_ne_true
  | notANumber => rfl
  | zero sign' => exact absurd h Bool.false_ne_true

open Float.Model in
theorem unpack_zero :
    (0.0 : Float).toModel.unpack = UnpackedFloat.zero .positive := by
  rfl

instance : ComparesZero Float where
  not_le_zero a hpos hzero := by
    have hlt : (Float.Model.UnpackedFloat.zero .positive).lt
        a.toModel.unpack = true :=
      unpack_zero ▸ of_decide_eq_true hpos
    have hle : a.toModel.unpack.le (.zero .positive) = true :=
      unpack_zero ▸ of_decide_eq_true hzero
    rw [not_le_zero_of_zero_lt _ hlt] at hle
    exact Bool.false_ne_true hle

end F64

end Darcbench
