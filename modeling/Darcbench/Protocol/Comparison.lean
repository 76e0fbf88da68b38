import Darcbench.Protocol.Exact

/-!
# Comparisons of numbers

A number that lies above a bound is not at most the bound.  The converse fails
for a value that is not comparable at all.
-/

namespace Darcbench

/-- The two comparisons exclude each other. -/
class F64.Strict (F : Type) [F64 F] : Prop where
  not_le_of_lt : ∀ a b : F, a < b → ¬ b ≤ a

/-- Finite numbers are comparable. -/
class F64.OrdersFinite (F : Type) [F64 F] : Prop where
  le_of_lt : ∀ a b : F, a < b → a ≤ b
  le_of_not_lt : ∀ a b : F, isFinite a = true → isFinite b = true →
    ¬ a < b → b ≤ a

namespace F64

open Float.Model in
/-- Comparing in the other direction swaps the order. -/
theorem compare_swap (a b : UnpackedFloat) :
    b.compare a = (a.compare b).map Ordering.swap := by
  have hnat : ∀ m n : ℕ, (compare m n).swap = compare n m :=
    fun m n => Nat.compare_swap m n
  have hint : ∀ m n : ℤ, (compare m n).swap = compare n m :=
    fun m n => Int.compare_swap m n
  cases a with
  | notANumber => cases b <;> rfl
  | infinity s =>
      cases b with
      | infinity t => cases s <;> cases t <;> rfl
      | _ => cases s <;> rfl
  | zero s =>
      cases b with
      | infinity t => cases t <;> rfl
      | finite t => cases t <;> rfl
      | _ => rfl
  | finite s m e hm =>
      cases b with
      | infinity t => cases s <;> cases t <;> rfl
      | zero t => cases s <;> rfl
      | notANumber => cases s <;> rfl
      | finite t n f hn =>
          have hfinite : ((compare e f).then (compare m n)).swap =
              (compare f e).then (compare n m) := by
            rw [Ordering.swap_then, hint, hnat]
          cases s <;> cases t
          · exact congrArg (fun o => some o.swap) hfinite.symm
          · rfl
          · rfl
          · exact congrArg some hfinite.symm

open Float.Model in
theorem le_eq_false_of_lt {a b : UnpackedFloat} (h : a.lt b = true) :
    b.le a = false := by
  have hlt : a.compare b = some .lt := eq_of_beq h
  rw [UnpackedFloat.le, compare_swap, hlt]
  rfl

instance : Strict Float where
  not_le_of_lt a b hlt hle := by
    have hfalse : b.toModel.unpack.le a.toModel.unpack = false :=
      le_eq_false_of_lt (of_decide_eq_true hlt)
    have htrue : b.toModel.unpack.le a.toModel.unpack = true :=
      of_decide_eq_true hle
    exact Bool.false_ne_true (hfalse.symm.trans htrue)

instance : Strict Exact where
  not_le_of_lt a b hlt hle := by
    cases a <;> cases b
    case fin.fin x y =>
      exact not_le_of_gt ((Exact.fin_lt_fin x y).mp hlt)
        ((Exact.fin_le_fin y x).mp hle)
    all_goals first | exact hlt | exact hle

open Float.Model in
theorem le_of_lt_eq_false {a b : UnpackedFloat} (ha : a.isFinite = true)
    (hb : b.isFinite = true) (h : a.lt b = false) : b.le a = true := by
  have hsome : ∃ o, a.compare b = some o := by
    cases a with
    | notANumber => cases ha
    | infinity => cases ha
    | zero s =>
        cases b with
        | notANumber => cases hb
        | infinity => cases hb
        | zero t => exact ⟨_, rfl⟩
        | finite t => cases t <;> exact ⟨_, rfl⟩
    | finite s =>
        cases b with
        | notANumber => cases hb
        | infinity => cases hb
        | zero t => cases s <;> exact ⟨_, rfl⟩
        | finite t => cases s <;> cases t <;> exact ⟨_, rfl⟩
  obtain ⟨o, ho⟩ := hsome
  rw [UnpackedFloat.le, compare_swap, ho]
  cases o with
  | lt =>
      have hlt : a.lt b = true := by
        rw [UnpackedFloat.lt, ho]
        rfl
      exact absurd (hlt.symm.trans h) (by decide)
  | eq => rfl
  | gt => rfl

open Float.Model in
theorem le_eq_true_of_lt {a b : UnpackedFloat} (h : a.lt b = true) :
    a.le b = true := by
  have hlt : a.compare b = some .lt := eq_of_beq h
  rw [UnpackedFloat.le, hlt]
  rfl

instance : OrdersFinite Float where
  le_of_lt a b h := by
    have hle : a.toModel.unpack.le b.toModel.unpack = true :=
      le_eq_true_of_lt (of_decide_eq_true h)
    exact decide_eq_true hle
  le_of_not_lt a b ha hb h := by
    have hlt : a.toModel.unpack.lt b.toModel.unpack = false :=
      Bool.eq_false_iff.mpr fun hlt =>
        h (decide_eq_true hlt)
    have hle : b.toModel.unpack.le a.toModel.unpack = true :=
      le_of_lt_eq_false ha hb hlt
    exact decide_eq_true hle

instance : OrdersFinite Exact where
  le_of_lt a b h := by
    cases a <;> cases b
    case fin.fin x y => exact le_of_lt ((Exact.fin_lt_fin x y).mp h)
    case inf.inf | negInf.negInf => exact h.elim
    all_goals exact h
  le_of_not_lt a b ha hb h := by
    obtain ⟨x, rfl⟩ := Exact.isFinite_eq_true_iff.mp ha
    obtain ⟨y, rfl⟩ := Exact.isFinite_eq_true_iff.mp hb
    have hlt : ¬ x < y := h
    exact not_lt.mp hlt

variable {F : Type} [F64 F] [OrdersFinite F]

theorem not_lt_self [Strict F] (a : F) : ¬ a < a :=
  fun h => Strict.not_le_of_lt a a h (OrdersFinite.le_of_lt a a h)

theorem le_refl_of_isFinite {a : F} (h : isFinite a = true) : a ≤ a := by
  by_cases hlt : a < a
  · exact OrdersFinite.le_of_lt a a hlt
  · exact OrdersFinite.le_of_not_lt a a h h hlt

/-- A finite number that is not at most zero is positive. -/
theorem zero_lt_of_not_le {a : F} (h : isFinite a = true)
    (hpos : ¬ a ≤ 0.0) : 0.0 < a := by
  by_contra hlt
  exact hpos (OrdersFinite.le_of_not_lt _ _ isFinite_zero h hlt)

end F64

end Darcbench
