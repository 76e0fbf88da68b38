import Darcbench.Protocol.Float

/-!
# Statistics of repetition samples

The summary of a metric, the stability rule applied to it, and the geometric
means with which scores are aggregated.
-/

namespace Darcbench

variable {F : Type} [F64 F]

/-- Descriptive statistics over a set of repetition samples. -/
structure Summary (F : Type) where
  n : ℕ
  min : F
  max : F
  mean : F
  median : F
  stddev : F
  /-- Coefficient of variation, absent when the mean is zero. -/
  cv : Option F
  /-- Confidence interval for the median. -/
  ci95 : Option (F × F)
  /-- Median absolute deviation, absent for fewer than three samples. -/
  mad : Option F

namespace Summary

/-- Half-width of the confidence interval relative to the median. -/
def relativeCi (s : Summary F) : Option F := do
  let (lo, hi) ← s.ci95
  if F64.abs s.median ≤ F64.epsilon then
    none
  else
    some (F64.abs ((hi - lo) / 2.0 / s.median))

/-- Median absolute deviation relative to the median, on the scale of the
coefficient of variation. -/
def relativeMad (s : Summary F) : Option F := do
  let mad ← s.mad
  if F64.abs s.median ≤ F64.epsilon then
    none
  else
    some (F64.abs (1.4826 * mad / s.median))

/-- Whether the repetitions were too unsteady to be compared. -/
def isUnstable (s : Summary F) (bound : F) : Bool :=
  match s.cv with
  | none => false
  | some cv =>
      if cv ≤ bound then
        false
      else
        match s.relativeMad <|> s.relativeCi with
        | some relative => decide (bound < relative)
        | none => true

end Summary

/-- Geometric mean of strictly positive values, computed in log space. -/
def geometricMean (values : List F) : Option F :=
  if values.isEmpty || values.any fun v =>
      !F64.isFinite v || decide (v ≤ 0.0) then
    none
  else
    let logSum := F64.sum (values.map F64.ln)
    some (F64.exp (logSum / F64.ofNat values.length))

/-- The loop of the weighted geometric mean: the sum of weighted logarithms,
or nothing as soon as a pair is unusable. -/
def weightedLogSum (acc : F) : List (F × F) → Option F
  | [] => some acc
  | (value, weight) :: rest =>
      if !F64.isFinite value || decide (value ≤ 0.0) ||
          !F64.isFinite weight || decide (weight ≤ 0.0) then
        none
      else
        weightedLogSum (acc + weight * F64.ln value) rest

/-- Weighted geometric mean of `(value, weight)` pairs. -/
def weightedGeometricMean (pairs : List (F × F)) : Option F :=
  if pairs.isEmpty then
    none
  else
    let totalWeight := F64.sum (pairs.map Prod.snd)
    if !F64.isFinite totalWeight || decide (totalWeight ≤ 0.0) then
      none
    else
      (weightedLogSum 0.0 pairs).map fun logSum =>
        F64.exp (logSum / totalWeight)

end Darcbench
