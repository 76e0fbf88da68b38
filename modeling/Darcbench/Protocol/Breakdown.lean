import Darcbench.Protocol.Summarize
import Darcbench.Support.OrderStatistics
import Mathlib.Tactic.Positivity

/-!
# A minority of wild samples

In exact arithmetic the median and the median absolute deviation stay where a
strict majority of the samples is.  As long as the median is not taken for zero,
the metric is then as steady as this majority.
-/

namespace Darcbench

open OrderStatistics (countWithin)

namespace Exact

/-- The samples in ascending order. -/
noncomputable def sortReal (values : List ℝ) : List ℝ :=
  values.mergeSort fun x y => decide (x ≤ y)

theorem sortReal_perm (values : List ℝ) : (sortReal values).Perm values :=
  List.mergeSort_perm _ _

theorem sortReal_pairwise (values : List ℝ) :
    (sortReal values).Pairwise (· ≤ ·) := by
  have htrans : ∀ x y z : ℝ, decide (x ≤ y) = true → decide (y ≤ z) = true →
      decide (x ≤ z) = true := by
    intro x y z hxy hyz
    exact decide_eq_true ((of_decide_eq_true hxy).trans (of_decide_eq_true hyz))
  have htotal : ∀ x y : ℝ, (decide (x ≤ y) || decide (y ≤ x)) = true := by
    intro x y
    rcases le_total x y with h | h <;> simp [h]
  exact (List.pairwise_mergeSort htrans htotal values).imp
    fun h => of_decide_eq_true h

theorem sortPartial_map_fin (values : List ℝ) :
    F64.sortPartial (values.map fin) = (sortReal values).map fin := by
  refine (List.map_mergeSort fun x _ y _ => ?_).symm
  by_cases h : y < x
  · have hfin : fin y < fin x := h
    simp [hfin, not_le.mpr h]
  · have hfin : ¬ fin y < fin x := h
    simp [hfin, not_lt.mp h]

/-- What the middle values have in common with their midpoint, the median has
as well. -/
theorem exists_medianOfSorted {P : ℝ → Prop}
    (hP : ∀ x y, P x → P y → P ((x + y) / 2)) {sorted : List ℝ}
    (hne : sorted ≠ [])
    (hmiddle : ∀ k (hk : k < sorted.length), sorted.length ≤ 2 * (k + 1) →
      2 * k ≤ sorted.length → P sorted[k]) :
    ∃ x, P x ∧ F64.medianOfSorted (sorted.map fin) = some (fin x) := by
  have hpos := List.length_pos_iff.mpr hne
  have htwo : (2.0 : Exact) = fin 2 := by
    rw [ofScientific_eq]
    norm_num
  rw [F64.medianOfSorted, List.length_map]
  by_cases hodd : sorted.length % 2 = 1
  · have hk : sorted.length / 2 < sorted.length := by omega
    rw [if_pos hodd, List.getElem?_map, List.getElem?_eq_getElem hk]
    exact ⟨_, hmiddle _ hk (by omega) (by omega), rfl⟩
  · have hk : sorted.length / 2 - 1 < sorted.length := by omega
    have hk' : sorted.length / 2 < sorted.length := by omega
    rw [if_neg hodd, List.getElem?_map, List.getElem?_map,
      List.getElem?_eq_getElem hk, List.getElem?_eq_getElem hk']
    refine ⟨_, hP _ _ (hmiddle _ hk (by omega) (by omega))
      (hmiddle _ hk' (by omega) (by omega)), ?_⟩
    show some ((fin _ + fin _) / 2.0) = _
    rw [fin_add_fin, htwo, fin_div_fin _ two_ne_zero]

/-- The median of samples that mostly lie in an interval. -/
theorem exists_median_within {a b : ℝ} {values : List ℝ}
    (hmajority : values.length < 2 * countWithin a b values) :
    ∃ m, (a ≤ m ∧ m ≤ b) ∧
      F64.medianOfSorted (F64.sortPartial (values.map fin)) =
        some (fin m) := by
  have hperm := sortReal_perm values
  have hsorted : (sortReal values).length <
      2 * countWithin a b (sortReal values) := by
    rwa [hperm.length_eq, OrderStatistics.countWithin_eq_of_perm hperm]
  rw [sortPartial_map_fin]
  refine exists_medianOfSorted (fun x y hx hy => ?_) ?_ ?_
  · constructor <;> linarith [hx.1, hx.2, hy.1, hy.2]
  · intro hnil
    rw [hnil] at hsorted
    exact absurd hsorted (by simp [countWithin])
  · intro k hk hlow hhigh
    exact OrderStatistics.getElem_within (sortReal_pairwise values) hsorted hk
      hlow hhigh

/-- A deviation from a value of the interval is at most its width. -/
theorem countWithin_deviations {a b m : ℝ} (hm : a ≤ m ∧ m ≤ b)
    (values : List ℝ) :
    countWithin a b values ≤
      countWithin 0 (b - a) (values.map fun v => |v - m|) := by
  refine OrderStatistics.countWithin_le_map _ (fun x ha hb => ?_) values
  exact ⟨abs_nonneg _, abs_le.mpr ⟨by linarith [hm.1, hm.2],
    by linarith [hm.1, hm.2]⟩⟩

end Exact

namespace Exact

theorem exists_summarize {samples : List ℝ} {m : ℝ} (hne : samples ≠ [])
    (hmedian : F64.medianOfSorted (F64.sortPartial (samples.map fin)) =
      some (fin m)) :
    ∃ s, summarize (samples.map fin) = some s ∧
      s.Describes ((sortReal samples).map fin) := by
  have hfinite : ((samples.map fin).isEmpty ||
      (samples.map fin).any fun v => !F64.isFinite v) = false := by
    simp [hne]
  have hsorted : (sortReal samples).map fin ≠ [] := by
    intro hnil
    have hlength := (sortReal_perm samples).length_eq
    rw [List.map_eq_nil_iff.mp hnil] at hlength
    exact hne (List.length_eq_zero_iff.mp hlength.symm)
  rw [summarize, hfinite, if_neg Bool.false_ne_true]
  rw [sortPartial_map_fin] at hmedian ⊢
  exact exists_describe hsorted hmedian

/-- The median absolute deviation of samples that mostly lie in an interval is
at most its width. -/
theorem exists_madOf_within {a b m : ℝ} (hm : a ≤ m ∧ m ≤ b)
    {sorted : List ℝ} (hthree : 3 ≤ sorted.length)
    (hmajority : sorted.length < 2 * countWithin a b sorted) :
    ∃ d, (0 ≤ d ∧ d ≤ b - a) ∧
      madOf (sorted.map fin) (fin m) = some (fin d) := by
  have hle := countWithin_deviations hm sorted
  have hdeviations : (sorted.map fun v => |v - m|).length <
      2 * countWithin 0 (b - a) (sorted.map fun v => |v - m|) := by
    rw [List.length_map]
    omega
  obtain ⟨d, hd, hmad⟩ := exists_median_within hdeviations
  refine ⟨d, hd, ?_⟩
  have hlength : 3 ≤ (sorted.map fin).length := by
    rwa [List.length_map]
  rw [madOf, if_pos hlength, ← hmad, List.map_map, List.map_map]
  rfl

end Exact

/-- The median and the median absolute deviation lie where most of the samples
are. -/
structure Summary.Within (s : Summary Exact) (a b m d : ℝ) : Prop where
  median : s.median = .fin m
  mad : s.mad = some (.fin d)
  median_ge : a ≤ m
  median_le : m ≤ b
  mad_nonneg : 0 ≤ d
  mad_le : d ≤ b - a

theorem exists_summarize_within {samples : List ℝ} {a b : ℝ}
    (hthree : 3 ≤ samples.length)
    (hmajority : samples.length < 2 * countWithin a b samples) :
    ∃ s m d, summarize (samples.map Exact.fin) = some s ∧
      s.Describes ((Exact.sortReal samples).map Exact.fin) ∧
      s.Within a b m d := by
  obtain ⟨m, hm, hmedian⟩ := Exact.exists_median_within hmajority
  have hne : samples ≠ [] := by
    rintro rfl
    exact absurd hthree (by decide)
  obtain ⟨s, hs, hdescribes⟩ := Exact.exists_summarize hne hmedian
  have hperm := Exact.sortReal_perm samples
  rw [← hperm.length_eq] at hthree
  rw [← hperm.length_eq, ← OrderStatistics.countWithin_eq_of_perm hperm]
    at hmajority
  obtain ⟨d, hd, hmad⟩ := Exact.exists_madOf_within hm hthree hmajority
  have hs' : s.median = .fin m := by
    have hmedian' := hdescribes.median
    rw [← Exact.sortPartial_map_fin, hmedian] at hmedian'
    exact (Option.some.inj hmedian').symm
  refine ⟨s, m, d, hs, hdescribes, hs', ?_, hm.1, hm.2, hd.1, hd.2⟩
  rw [hdescribes.mad, hs', hmad]

/-- The constant `EPSILON` as a real number. -/
noncomputable def epsilonReal : ℝ := 2.220446049250313e-16

theorem epsilon_eq : (F64.epsilon : Exact) = .fin epsilonReal :=
  Exact.ofScientific_eq _ _ _

namespace Summary.Within

variable {s : Summary Exact} {a b m d : ℝ}

/-- A median that counts as a number is compared with the deviation from it. -/
theorem relativeMad_eq (h : s.Within a b m d) (ha : 0 < a)
    (hm : epsilonReal < m) :
    s.relativeMad = some (.fin (1.4826 * d / m)) := by
  have hpos : 0 < m := ha.trans_le h.median_ge
  have hne : ¬ F64.abs s.median ≤ F64.epsilon := by
    rw [h.median, Exact.abs_fin, abs_of_pos hpos, epsilon_eq]
    exact not_le.mpr hm
  have hfactor : (1.4826 : Exact) = .fin 1.4826 := Exact.ofScientific_eq _ _ _
  have hratio : 0 ≤ 1.4826 * d / m := by
    have hd := h.mad_nonneg
    positivity
  rw [Summary.relativeMad, h.mad]
  show (if _ then none else some _) = _
  rw [if_neg hne, h.median, hfactor, Exact.fin_mul_fin,
    Exact.fin_div_fin _ hpos.ne', Exact.abs_fin, abs_of_nonneg hratio]

/-- The metric is steady for every bound above the relative width. -/
theorem not_isUnstable (h : s.Within a b m d) (ha : 0 < a)
    (hm : epsilonReal < m) {bound : Exact}
    (hbound : Exact.fin (1.4826 * (b - a) / a) ≤ bound) :
    s.isUnstable bound = false := by
  have hpos : 0 < m := ha.trans_le h.median_ge
  have hwidth : 1.4826 * d / m ≤ 1.4826 * (b - a) / a := by
    have hd := h.mad_nonneg
    have hle := h.mad_le
    have hnumerator : 1.4826 * d ≤ 1.4826 * (b - a) := by linarith
    exact div_le_div₀ (by linarith) hnumerator ha h.median_ge
  have hsteady : ¬ bound < Exact.fin (1.4826 * d / m) := by
    intro hlt
    cases bound with
    | fin x =>
        have hx : 1.4826 * (b - a) / a ≤ x := hbound
        have hx' : x < 1.4826 * d / m := hlt
        linarith
    | inf => exact hlt
    | negInf => exact hbound
    | nan => exact hbound
  rw [Summary.isUnstable]
  cases s.cv with
  | none => rfl
  | some cv =>
      by_cases hcv : cv ≤ bound
      · exact if_pos hcv
      · rw [relativeMad_eq h ha hm]
        show (if cv ≤ bound then false else decide _) = false
        rw [if_neg hcv]
        exact decide_eq_false hsteady

/-- A median that counts as zero leaves the decision to the coefficient of
variation. -/
theorem isUnstable_of_le (h : s.Within a b m d) (ha : 0 < a)
    (hm : m ≤ epsilonReal) (bound : Exact) :
    s.isUnstable bound = true ↔ ∃ cv, s.cv = some cv ∧ ¬ cv ≤ bound := by
  have hpos : 0 < m := ha.trans_le h.median_ge
  have hzero : F64.abs s.median ≤ F64.epsilon := by
    rw [h.median, Exact.abs_fin, abs_of_pos hpos, epsilon_eq]
    exact hm
  have hmad : s.relativeMad = none := by
    rw [Summary.relativeMad, h.mad]
    exact if_pos hzero
  have hci : s.relativeCi = none := by
    rw [Summary.relativeCi]
    cases s.ci95 with
    | none => rfl
    | some interval => exact if_pos hzero
  rw [Summary.isUnstable, hmad, hci]
  cases s.cv with
  | none => simp
  | some cv => simp

end Summary.Within

/-- Most of the samples decide how steady a metric is, unless their median
counts as zero. -/
theorem within_and_steady {samples : List ℝ} {a b : ℝ}
    (hthree : 3 ≤ samples.length) (ha : 0 < a)
    (hmajority : samples.length < 2 * countWithin a b samples) :
    ∃ s m d, summarize (samples.map Exact.fin) = some s ∧
      s.Within a b m d ∧
      (epsilonReal < m → ∀ bound : Exact,
        Exact.fin (1.4826 * (b - a) / a) ≤ bound →
          s.isUnstable bound = false) ∧
      (m ≤ epsilonReal → ∀ bound : Exact,
        s.isUnstable bound = true ↔ ∃ cv, s.cv = some cv ∧ ¬ cv ≤ bound) := by
  obtain ⟨s, m, d, hs, -, hwithin⟩ :=
    exists_summarize_within hthree hmajority
  exact ⟨s, m, d, hs, hwithin,
    fun hm _ hbound => hwithin.not_isUnstable ha hm hbound,
    fun hm bound => hwithin.isUnstable_of_le ha hm bound⟩

/-- One wild sample among three. -/
theorem within_and_steady_wild :
    ∃ s m d, summarize ([1, 1, 1000].map Exact.fin) = some s ∧
      s.Within 1 1 m d ∧
      (epsilonReal < m → ∀ bound : Exact,
        Exact.fin (1.4826 * (1 - 1) / 1) ≤ bound →
          s.isUnstable bound = false) ∧
      (m ≤ epsilonReal → ∀ bound : Exact,
        s.isUnstable bound = true ↔ ∃ cv, s.cv = some cv ∧ ¬ cv ≤ bound) := by
  refine within_and_steady (by simp) one_pos ?_
  norm_num [countWithin]

/-! ## A median that counts as zero -/

namespace Exact

theorem meanOf_map_fin {xs : List ℝ} (hne : xs ≠ []) :
    meanOf (xs.map fin) = fin (xs.sum / xs.length) := by
  have hlength : (xs.length : ℝ) ≠ 0 :=
    Nat.cast_ne_zero.mpr fun hzero => hne (List.eq_nil_of_length_eq_zero hzero)
  rw [meanOf, sum_map_fin, List.length_map, ofNat_eq, fin_div_fin _ hlength]

theorem stddevOf_map_fin {xs : List ℝ} (hlength : 1 < xs.length) (μ : ℝ) :
    stddevOf (xs.map fin) (fin μ) =
      fin (Real.sqrt ((xs.map fun v => (v - μ) * (v - μ)).sum /
        (xs.length - 1))) := by
  have hone : (1.0 : Exact) = fin 1 := by
    rw [ofScientific_eq]
    norm_num
  have hpos : (0 : ℝ) < xs.length - 1 := by
    have hcast : (1 : ℝ) < xs.length := by exact_mod_cast hlength
    linarith
  have hsquares : ((xs.map fin).map fun v => (v - fin μ) * (v - fin μ)) =
      (xs.map fun v => (v - μ) * (v - μ)).map fin := by
    rw [List.map_map, List.map_map]
    refine List.map_congr_left fun v _ => ?_
    simp
  have hsum : 0 ≤ (xs.map fun v => (v - μ) * (v - μ)).sum := by
    refine List.sum_nonneg fun y hy => ?_
    obtain ⟨v, _, rfl⟩ := List.mem_map.mp hy
    exact mul_self_nonneg _
  have hlength' : 1 < (xs.map fin).length := by rwa [List.length_map]
  rw [stddevOf, if_pos hlength', hsquares, sum_map_fin, List.length_map,
    ofNat_eq, hone, fin_sub_fin, fin_div_fin _ hpos.ne',
    sqrt_fin (div_nonneg hsum hpos.le)]

/-- Samples that differ from their mean vary. -/
theorem exists_cv_pos {samples : List ℝ} (hlength : 1 < samples.length)
    {s : Summary Exact} (h : s.Describes ((sortReal samples).map fin))
    (hmean : epsilonReal < samples.sum / samples.length)
    (hvaries : 0 < (samples.map fun v =>
      (v - samples.sum / samples.length) *
        (v - samples.sum / samples.length)).sum) :
    ∃ c : ℝ, 0 < c ∧ s.cv = some (.fin c) := by
  have hperm := sortReal_perm samples
  have hsize := hperm.length_eq
  have hne : sortReal samples ≠ [] := by
    intro hnil
    rw [hnil] at hsize
    exact absurd hsize (by simpa using (Nat.zero_lt_of_lt hlength).ne)
  have hsize' : 1 < (sortReal samples).length := by rwa [hsize]
  have hμ : s.mean = .fin (samples.sum / samples.length) := by
    rw [h.mean, meanOf_map_fin hne, hperm.sum_eq, hsize]
  have hpos : 0 < samples.sum / samples.length := by
    refine lt_trans ?_ hmean
    norm_num [epsilonReal]
  have hstddev := h.stddev
  rw [hμ, stddevOf_map_fin hsize', (hperm.map _).sum_eq, hsize] at hstddev
  have hcast : (0 : ℝ) < samples.length - 1 := by
    have hone : (1 : ℝ) < samples.length := by exact_mod_cast hlength
    linarith
  have hlt : (F64.epsilon : Exact) < F64.abs s.mean := by
    rw [hμ, epsilon_eq, abs_fin, abs_of_pos hpos]
    exact hmean
  obtain ⟨y, hy, hstddev⟩ : ∃ y, 0 < y ∧ s.stddev = .fin y :=
    ⟨_, Real.sqrt_pos.mpr (div_pos hvaries hcast), hstddev⟩
  refine ⟨y / (samples.sum / samples.length), div_pos hy hpos, ?_⟩
  rw [h.cv, if_pos hlt, hstddev, hμ, fin_div_fin _ hpos.ne']

end Exact

/-- Two samples of almost nothing and a wild one. -/
noncomputable def tinySamples : List ℝ := [1e-17, 1e-17, 1]

theorem countWithin_tinySamples :
    tinySamples.length < 2 * countWithin (1e-17 : ℝ) 1e-17 tinySamples := by
  norm_num [tinySamples, countWithin]

/-- A median that counts as zero is called unsteady for one wild sample. -/
theorem not_steady_tinySamples :
    ¬ ∀ (samples : List ℝ) (a b : ℝ), 3 ≤ samples.length → 0 < a → a ≤ b →
      samples.length < 2 * countWithin a b samples →
      ∃ s, summarize (samples.map Exact.fin) = some s ∧
        ∀ bound : Exact, Exact.fin (1.4826 * (b - a) / a) ≤ bound →
          s.isUnstable bound = false := by
  intro hall
  have ha : (0 : ℝ) < 1e-17 := by norm_num
  obtain ⟨s, hs, hsteady⟩ := hall tinySamples 1e-17 1e-17
    (by simp [tinySamples]) ha le_rfl countWithin_tinySamples
  obtain ⟨s', m, d, hs', hdescribes, hwithin⟩ := exists_summarize_within
    (by simp [tinySamples]) countWithin_tinySamples
  obtain rfl := Option.some.inj (hs.symm.trans hs')
  have hm : m ≤ epsilonReal := by
    refine hwithin.median_le.trans ?_
    norm_num [epsilonReal]
  obtain ⟨c, hc, hcv⟩ := Exact.exists_cv_pos (by simp [tinySamples]) hdescribes
    (by norm_num [tinySamples, epsilonReal]) (by norm_num [tinySamples])
  have hunstable := (hwithin.isUnstable_of_le ha hm (.fin 0)).mpr
    ⟨.fin c, hcv, not_le.mpr hc⟩
  rw [hsteady (.fin 0) (by
    show (1.4826 * (1e-17 - 1e-17) / 1e-17 : ℝ) ≤ 0
    norm_num)] at hunstable
  exact Bool.false_ne_true hunstable

end Darcbench
