import Darcbench.Protocol.Exact
import Darcbench.Protocol.Stats
import Mathlib.Algebra.Order.Floor.Semiring

/-!
# The summary of a metric

The samples are sorted, and described by their mean, their median, the spread
around both and an interval for the median.
-/

namespace Darcbench

/-- Rounding down, and the conversion `as usize`, which saturates. -/
class F64.Floor (F : Type) where
  floor : F → F
  toUsize : F → ℕ

instance : F64.Floor Float where
  floor := Float.floor
  toUsize a := a.toUInt64.toNat

/-- A size has 64 bits. -/
noncomputable def Exact.toUsize : Exact → ℕ
  | fin x => min ⌊x⌋₊ (2 ^ 64 - 1)
  | inf => 2 ^ 64 - 1
  | _ => 0

noncomputable def Exact.floor : Exact → Exact
  | fin x => fin ⌊x⌋
  | a => a

noncomputable instance : F64.Floor Exact where
  floor := Exact.floor
  toUsize := Exact.toUsize

variable {F : Type} [F64 F] [F64.Sqrt F] [F64.Floor F]

/-- The rank at which the interval for the median starts, counted from zero. -/
def medianCi95Rank (n : ℕ) : ℕ :=
  let nf : F := F64.ofNat n
  let k := F64.Floor.floor (nf / 2.0 - 0.98 * F64.Sqrt.sqrt nf)
  F64.Floor.toUsize (F64.max k 0.0)

/-- Order-statistic confidence interval for the median. -/
def medianCi95 (sorted : List F) : Option (F × F) :=
  let n := sorted.length
  if n < 6 then
    none
  else
    let lo := medianCi95Rank (F := F) n
    let hi := n - (lo + 1)
    if hi ≤ lo then
      none
    else do
      let low ← sorted[lo]?
      let high ← sorted[hi]?
      some (low, high)

def meanOf (values : List F) : F :=
  F64.sum values / F64.ofNat values.length

/-- Sample standard deviation, zero for a single sample. -/
def stddevOf (values : List F) (mean : F) : F :=
  if 1 < values.length then
    F64.Sqrt.sqrt
      (F64.sum (values.map fun v => (v - mean) * (v - mean)) /
        (F64.ofNat values.length - 1.0))
  else 0.0

/-- Median of the absolute deviations from the median. -/
def madOf (sorted : List F) (median : F) : Option F :=
  if 3 ≤ sorted.length then
    F64.medianOfSorted
      (F64.sortPartial (sorted.map fun v => F64.abs (v - median)))
  else none

/-- The statistics of samples in ascending order. -/
def describe (sorted : List F) : Option (Summary F) := do
  let median ← F64.medianOfSorted sorted
  let min ← sorted[0]?
  let max ← sorted[sorted.length - 1]?
  let mean := meanOf sorted
  let stddev := stddevOf sorted mean
  some
    { n := sorted.length
      min := min
      max := max
      mean := mean
      median := median
      stddev := stddev
      cv := if F64.epsilon < F64.abs mean then some (stddev / mean) else none
      ci95 := medianCi95 sorted
      mad := madOf sorted median }

/-- Computes descriptive statistics of finite samples. -/
def summarize (samples : List F) : Option (Summary F) :=
  if samples.isEmpty || samples.any fun v => !F64.isFinite v then
    none
  else
    describe (F64.sortPartial samples)

/-- What every summary has in common. -/
structure Summary.Describes (s : Summary F) (sorted : List F) : Prop where
  mean : s.mean = meanOf sorted
  median : F64.medianOfSorted sorted = some s.median
  stddev : s.stddev = stddevOf sorted s.mean
  cv : s.cv =
    if F64.epsilon < F64.abs s.mean then some (s.stddev / s.mean) else none
  ci95 : s.ci95 = medianCi95 sorted
  mad : s.mad = madOf sorted s.median

theorem exists_describe {sorted : List F} {median : F} (hne : sorted ≠ [])
    (hmedian : F64.medianOfSorted sorted = some median) :
    ∃ s, describe sorted = some s ∧ s.Describes sorted := by
  have hpos := List.length_pos_iff.mpr hne
  have hlast : sorted.length - 1 < sorted.length := Nat.sub_one_lt_of_lt hpos
  rw [describe, hmedian, List.getElem?_eq_getElem hpos,
    List.getElem?_eq_getElem hlast]
  exact ⟨_, rfl,
    { mean := rfl
      median := hmedian
      stddev := rfl
      cv := rfl
      ci95 := rfl
      mad := rfl }⟩

end Darcbench
