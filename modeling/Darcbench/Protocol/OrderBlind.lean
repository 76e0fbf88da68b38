import Darcbench.Protocol.Breakdown

/-!
# The order of the samples

In exact arithmetic a summary does not depend on the order in which the samples
were taken, and its figures are in order themselves: the two ranks of the
interval never cross, and they stand on either side of the middle.
-/

namespace Darcbench

namespace Exact

theorem sortReal_eq_of_perm {values values' : List ℝ}
    (h : values.Perm values') : sortReal values = sortReal values' := by
  have hperm : (sortReal values).Perm (sortReal values') :=
    (sortReal_perm values).trans (h.trans (sortReal_perm values').symm)
  exact hperm.eq_of_pairwise' (sortReal_pairwise values)
    (sortReal_pairwise values')

theorem sortReal_ne_nil {values : List ℝ} (hne : values ≠ []) :
    sortReal values ≠ [] := by
  intro hnil
  have hlength := (sortReal_perm values).length_eq
  rw [hnil] at hlength
  exact hne (List.length_eq_zero_iff.mp hlength.symm)

/-! ## The ranks of the interval -/

theorem medianCi95Rank_eq (n : ℕ) :
    medianCi95Rank (F := Exact) n =
      min ⌊max (⌊(n : ℝ) / 2 - 0.98 * √n⌋ : ℝ) 0⌋₊ (2 ^ 64 - 1) := by
  have htwo : (2.0 : Exact) = fin 2 := by
    rw [ofScientific_eq]
    norm_num
  have hfactor : (0.98 : Exact) = fin 0.98 := ofScientific_eq _ _ _
  have hsqrt : F64.Sqrt.sqrt (fin (n : ℝ)) = fin √n :=
    sqrt_fin n.cast_nonneg
  have hrank : (F64.ofNat n : Exact) / 2.0 -
      0.98 * F64.Sqrt.sqrt (F64.ofNat n : Exact) =
        fin ((n : ℝ) / 2 - 0.98 * √n) := by
    rw [ofNat_eq, htwo, hfactor, hsqrt, fin_div_fin _ two_ne_zero,
      fin_mul_fin, fin_sub_fin]
  have hmax : F64.max (fin (⌊(n : ℝ) / 2 - 0.98 * √n⌋ : ℝ)) 0.0 =
      fin (max (⌊(n : ℝ) / 2 - 0.98 * √n⌋ : ℝ) 0) := by
    rw [zero_eq, max_fin]
  show F64.Floor.toUsize (F64.max (F64.Floor.floor
    ((F64.ofNat n : Exact) / 2.0 -
      0.98 * F64.Sqrt.sqrt (F64.ofNat n : Exact))) 0.0) = _
  rw [hrank]
  exact congrArg Exact.toUsize hmax

theorem medianCi95Rank_le (n : ℕ) :
    (medianCi95Rank (F := Exact) n : ℝ) ≤ max ((n : ℝ) / 2 - 0.98 * √n) 0 := by
  have hfloor : (max (⌊(n : ℝ) / 2 - 0.98 * √n⌋ : ℝ) 0) ≤
      max ((n : ℝ) / 2 - 0.98 * √n) 0 :=
    max_le_max_right 0 (Int.floor_le _)
  have hrank : (medianCi95Rank (F := Exact) n : ℝ) ≤
      (⌊max (⌊(n : ℝ) / 2 - 0.98 * √n⌋ : ℝ) 0⌋₊ : ℝ) := by
    rw [medianCi95Rank_eq]
    exact_mod_cast min_le_left _ _
  exact hrank.trans ((Nat.floor_le (le_max_right _ _)).trans hfloor)

/-- The interval starts before the middle. -/
theorem two_mul_medianCi95Rank_lt {n : ℕ} (hsix : 6 ≤ n) :
    2 * medianCi95Rank (F := Exact) n + 1 < n := by
  have hn : (6 : ℝ) ≤ n := by exact_mod_cast hsix
  have hsqrt : 2 ≤ √(n : ℝ) := by
    rw [Real.le_sqrt' two_pos]
    linarith
  have hlt : 2 * (medianCi95Rank (F := Exact) n : ℝ) + 1 < n := by
    have hle := medianCi95Rank_le n
    rcases max_cases ((n : ℝ) / 2 - 0.98 * √n) 0 with ⟨hmax, -⟩ | ⟨hmax, -⟩
    · rw [hmax] at hle
      linarith
    · rw [hmax] at hle
      linarith
  exact_mod_cast hlt

section Sorted

variable {sorted : List ℝ}

/-- The values at the two ranks of the interval. -/
theorem medianCi95_map_fin (hsix : 6 ≤ sorted.length) :
    ∃ lo hi, ∃ hlo : lo < sorted.length, ∃ hhi : hi < sorted.length,
      2 * lo + 1 < sorted.length ∧ lo + hi + 1 = sorted.length ∧
        medianCi95 (sorted.map fin) =
          some (fin sorted[lo], fin sorted[hi]) := by
  have hrank := two_mul_medianCi95Rank_lt hsix
  generalize hlo : medianCi95Rank (F := Exact) sorted.length = lo at hrank
  refine ⟨lo, sorted.length - (lo + 1), by omega, by omega, hrank, by omega, ?_⟩
  have hcross : ¬ sorted.length - (lo + 1) ≤ lo := by omega
  rw [medianCi95, List.length_map, if_neg (not_lt.mpr hsix)]
  simp only [hlo, if_neg hcross, List.getElem?_map]
  rw [List.getElem?_eq_getElem (show lo < sorted.length by omega),
    List.getElem?_eq_getElem
      (show sorted.length - (lo + 1) < sorted.length by omega)]
  rfl

theorem medianCi95_eq_none {F : Type} [F64 F] [F64.Sqrt F] [F64.Floor F]
    {values : List F} (h : values.length < 6) : medianCi95 values = none := by
  rw [medianCi95, if_pos h]

/-! ## Where the figures are -/

/-- A midpoint of two values between bounds is between them. -/
theorem between_midpoint {a b : ℝ} (x y : ℝ) (hx : a ≤ x ∧ x ≤ b)
    (hy : a ≤ y ∧ y ≤ b) : a ≤ (x + y) / 2 ∧ (x + y) / 2 ≤ b := by
  constructor
  · linarith [hx.1, hy.1]
  · linarith [hx.2, hy.2]

/-- The median is between any two values on either side of the middle. -/
theorem medianOfSorted_between (hsorted : sorted.Pairwise (· ≤ ·)) {lo hi : ℕ}
    (hlo : lo < sorted.length) (hhi : hi < sorted.length)
    (hlow : 2 * lo + 1 ≤ sorted.length) (hhigh : sorted.length ≤ 2 * hi + 1)
    {m : ℝ} (hm : F64.medianOfSorted (sorted.map fin) = some (fin m)) :
    sorted[lo] ≤ m ∧ m ≤ sorted[hi] := by
  have hne : sorted ≠ [] := List.ne_nil_of_length_pos (Nat.zero_lt_of_lt hlo)
  obtain ⟨x, hx, hmedian⟩ := exists_medianOfSorted
    (P := fun x => sorted[lo] ≤ x ∧ x ≤ sorted[hi]) between_midpoint hne
    (by
      intro k hk hbelow habove
      constructor
      · exact OrderStatistics.getElem_le_getElem hsorted (by omega) hk
      · exact OrderStatistics.getElem_le_getElem hsorted (by omega) hhi)
  rw [hm] at hmedian
  obtain rfl : m = x := by simpa using hmedian
  exact hx

/-- The mean is between the bounds of the values. -/
theorem meanOf_between {values : List ℝ} (hne : values ≠ []) {a b : ℝ}
    (h : ∀ x ∈ values, a ≤ x ∧ x ≤ b) :
    a ≤ values.sum / values.length ∧ values.sum / values.length ≤ b := by
  have hpos : (0 : ℝ) < values.length := by
    exact_mod_cast List.length_pos_iff.mpr hne
  constructor
  · have hsum := List.card_nsmul_le_sum values a fun x hx => (h x hx).1
    rw [nsmul_eq_mul] at hsum
    rw [le_div_iff₀ hpos]
    linarith
  · have hsum := List.sum_le_card_nsmul values b fun x hx => (h x hx).2
    rw [nsmul_eq_mul] at hsum
    rw [div_le_iff₀ hpos]
    linarith

/-- What every deviation has, the median absolute deviation has as well. -/
theorem exists_madOf {P : ℝ → Prop}
    (hP : ∀ x y, P x → P y → P ((x + y) / 2)) (hthree : 3 ≤ sorted.length)
    {m : ℝ} (h : ∀ v ∈ sorted, P |v - m|) :
    ∃ d, P d ∧ madOf (sorted.map fin) (fin m) = some (fin d) := by
  let deviations := sorted.map fun v => |v - m|
  have hperm := sortReal_perm deviations
  have hne : sortReal deviations ≠ [] := by
    refine sortReal_ne_nil (List.ne_nil_of_length_pos ?_)
    rw [List.length_map]
    omega
  obtain ⟨d, hd, hmedian⟩ := exists_medianOfSorted hP hne
    (by
      intro k hk _ _
      have hmem := hperm.mem_iff.mp (List.getElem_mem hk)
      obtain ⟨v, hv, heq⟩ := List.mem_map.mp hmem
      rw [← heq]
      exact h v hv)
  refine ⟨d, hd, ?_⟩
  have hlength : 3 ≤ (sorted.map fin).length := by
    rwa [List.length_map]
  rw [madOf, if_pos hlength, ← hmedian, ← sortPartial_map_fin, List.map_map,
    List.map_map]
  rfl

/-- Fewer than three values have no median absolute deviation. -/
theorem of_madOf_eq_some {P : ℝ → Prop}
    (hP : ∀ x y, P x → P y → P ((x + y) / 2)) {m : ℝ}
    (h : ∀ v ∈ sorted, P |v - m|) {d : Exact}
    (hd : madOf (sorted.map fin) (fin m) = some d) : ∃ x, P x ∧ d = fin x := by
  by_cases hthree : 3 ≤ sorted.length
  · obtain ⟨x, hx, hmad⟩ := exists_madOf hP hthree h
    rw [hmad] at hd
    exact ⟨x, hx, (Option.some.inj hd).symm⟩
  · rw [madOf, List.length_map, if_neg hthree] at hd
    exact absurd hd (by simp)

/-- The interval, where there is one, lies around the median. -/
theorem between_of_medianCi95 (hsorted : sorted.Pairwise (· ≤ ·)) {m : ℝ}
    (hm : F64.medianOfSorted (sorted.map fin) = some (fin m)) {lo hi : Exact}
    (hci : medianCi95 (sorted.map fin) = some (lo, hi)) :
    ∃ x y, x ∈ sorted ∧ y ∈ sorted ∧ lo = fin x ∧ hi = fin y ∧
      x ≤ m ∧ m ≤ y := by
  by_cases hsix : 6 ≤ sorted.length
  · obtain ⟨i, j, hi, hj, hlow, hhigh, hinterval⟩ := medianCi95_map_fin hsix
    rw [hinterval] at hci
    obtain ⟨rfl, rfl⟩ := Prod.mk.inj (Option.some.inj hci)
    have hmiddle := medianOfSorted_between hsorted hi hj (by omega)
      (by omega) hm
    exact ⟨_, _, List.getElem_mem hi, List.getElem_mem hj, rfl, rfl, hmiddle⟩
  · rw [medianCi95_eq_none (by rw [List.length_map]; omega)] at hci
    exact absurd hci (by simp)

end Sorted

end Exact

theorem describe_extremes {F : Type} [F64 F] [F64.Sqrt F] [F64.Floor F]
    {sorted : List F} {s : Summary F} (h : describe sorted = some s) :
    s.n = sorted.length ∧ sorted[0]? = some s.min ∧
      sorted[sorted.length - 1]? = some s.max := by
  rw [describe] at h
  cases hmedian : F64.medianOfSorted sorted with
  | none =>
      rw [hmedian] at h
      exact absurd h (by simp)
  | some median =>
      cases hmin : sorted[0]? with
      | none =>
          rw [hmedian, hmin] at h
          exact absurd h (by simp)
      | some min =>
          cases hmax : sorted[sorted.length - 1]? with
          | none =>
              rw [hmedian, hmin, hmax] at h
              exact absurd h (by simp)
          | some max =>
              rw [hmedian, hmin, hmax] at h
              obtain rfl := Option.some.inj h
              exact ⟨rfl, rfl, rfl⟩

/-! ## The whole summary -/

/-- The figures of a summary are in order. -/
structure Summary.IsOrdered (s : Summary Exact) : Prop where
  mean_ge : s.min ≤ s.mean
  mean_le : s.mean ≤ s.max
  stddev_nonneg : .fin 0 ≤ s.stddev
  mad_nonneg : ∀ d, s.mad = some d → .fin 0 ≤ d
  isSome_mad : 3 ≤ s.n → s.mad.isSome = true
  bracket : ∀ lo hi, s.ci95 = some (lo, hi) →
    s.min ≤ lo ∧ lo ≤ s.median ∧ s.median ≤ hi ∧ hi ≤ s.max
  isSome_ci95 : 6 ≤ s.n → s.ci95.isSome = true

/-- A summary of samples that do not spread. -/
structure Summary.IsFlat (s : Summary Exact) : Prop where
  stddev : s.stddev = .fin 0
  mad : ∀ d, s.mad = some d → d = .fin 0

namespace Exact

section Describe

variable {sorted : List ℝ} {s : Summary Exact}

/-- The standard deviation around a number is a number that is not negative. -/
theorem exists_stddevOf (sorted : List ℝ) (μ : ℝ) :
    ∃ σ : ℝ, 0 ≤ σ ∧ stddevOf (sorted.map fin) (fin μ) = fin σ := by
  by_cases hlength : 1 < sorted.length
  · exact ⟨_, Real.sqrt_nonneg _, stddevOf_map_fin hlength μ⟩
  · refine ⟨0, le_rfl, ?_⟩
    rw [stddevOf, List.length_map, if_neg hlength, zero_eq]

theorem stddevOf_eq_zero {μ : ℝ} (h : ∀ v ∈ sorted, v = μ) :
    stddevOf (sorted.map fin) (fin μ) = fin 0 := by
  by_cases hlength : 1 < sorted.length
  · have hsum : (sorted.map fun v => (v - μ) * (v - μ)).sum = 0 := by
      refine List.sum_eq_zero fun x hx => ?_
      obtain ⟨v, hv, rfl⟩ := List.mem_map.mp hx
      rw [h v hv, sub_self, mul_zero]
    rw [stddevOf_map_fin hlength, hsum, zero_div, Real.sqrt_zero]
  · rw [stddevOf, List.length_map, if_neg hlength, zero_eq]

/-- The figures of an ascending list of numbers, as numbers. -/
theorem exists_figures (hne : sorted ≠ [])
    (hs : describe (sorted.map fin) = some s)
    (h : s.Describes (sorted.map fin)) :
    ∃ first last : ℝ, sorted[0]? = some first ∧
      sorted[sorted.length - 1]? = some last ∧
      s.n = sorted.length ∧ s.min = fin first ∧ s.max = fin last ∧
      s.mean = fin (sorted.sum / sorted.length) := by
  have hpos := List.length_pos_iff.mpr hne
  have hlast : sorted.length - 1 < sorted.length := Nat.sub_one_lt_of_lt hpos
  obtain ⟨hn, hmin, hmax⟩ := describe_extremes hs
  rw [List.length_map] at hn hmax
  rw [List.getElem?_map, List.getElem?_eq_getElem hpos] at hmin
  rw [List.getElem?_map, List.getElem?_eq_getElem hlast] at hmax
  refine ⟨_, _, List.getElem?_eq_getElem hpos, List.getElem?_eq_getElem hlast,
    hn, (Option.some.inj hmin).symm, (Option.some.inj hmax).symm, ?_⟩
  rw [h.mean, meanOf_map_fin hne]

/-- The summary of an ascending list is in order. -/
theorem isOrdered_describe (hsorted : sorted.Pairwise (· ≤ ·))
    (hne : sorted ≠ []) (hs : describe (sorted.map fin) = some s)
    (h : s.Describes (sorted.map fin)) {m : ℝ} (hm : s.median = fin m) :
    s.IsOrdered := by
  have hpos := List.length_pos_iff.mpr hne
  have hlast : sorted.length - 1 < sorted.length := Nat.sub_one_lt_of_lt hpos
  obtain ⟨first, last, hfirst, hend, hn, hmin, hmax, hmean⟩ :=
    exists_figures hne hs h
  rw [List.getElem?_eq_getElem hpos] at hfirst
  rw [List.getElem?_eq_getElem hlast] at hend
  obtain rfl := Option.some.inj hfirst
  obtain rfl := Option.some.inj hend
  have hbounds : ∀ x ∈ sorted,
      sorted[0] ≤ x ∧ x ≤ sorted[sorted.length - 1] := by
    intro x hx
    obtain ⟨i, hi, rfl⟩ := List.mem_iff_getElem.mp hx
    constructor
    · exact OrderStatistics.getElem_le_getElem hsorted (Nat.zero_le i) hi
    · exact OrderStatistics.getElem_le_getElem hsorted (by omega) hlast
  have hbetween := meanOf_between hne hbounds
  have hmedian := h.median
  rw [hm] at hmedian
  constructor
  · rw [hmin, hmean]
    exact hbetween.1
  · rw [hmax, hmean]
    exact hbetween.2
  · obtain ⟨σ, hσ, hstddev⟩ :=
      exists_stddevOf sorted (sorted.sum / sorted.length)
    rw [h.stddev, hmean, hstddev]
    exact hσ
  · intro d hd
    rw [h.mad, hm] at hd
    obtain ⟨x, hx, rfl⟩ := of_madOf_eq_some (P := fun d => 0 ≤ d)
      (fun x y hx hy => by linarith) (fun v _ => abs_nonneg (v - m)) hd
    exact hx
  · intro hthree
    rw [hn] at hthree
    obtain ⟨d, -, hmad⟩ := exists_madOf (P := fun _ => True)
      (fun _ _ _ _ => trivial) hthree (m := m) fun _ _ => trivial
    rw [h.mad, hm, hmad, Option.isSome_some]
  · intro lo hi hci
    rw [h.ci95] at hci
    obtain ⟨x, y, hx, hy, rfl, rfl, hlow, hhigh⟩ :=
      between_of_medianCi95 hsorted hmedian hci
    rw [hmin, hmax, hm]
    exact ⟨(hbounds x hx).1, hlow, hhigh, (hbounds y hy).2⟩
  · intro hsix
    rw [hn] at hsix
    obtain ⟨i, j, hi, hj, -, -, hinterval⟩ := medianCi95_map_fin hsix
    rw [h.ci95, hinterval, Option.isSome_some]

/-- The summary of equal values shows no spread. -/
theorem isFlat_describe (hne : sorted ≠ [])
    (h : s.Describes (sorted.map fin))
    (hequal : ∀ x ∈ sorted, ∀ y ∈ sorted, x = y) : s.IsFlat := by
  have hpos := List.length_pos_iff.mpr hne
  have hmem : sorted[0] ∈ sorted := List.getElem_mem hpos
  have hall : ∀ v ∈ sorted, v = sorted[0] := fun v hv => hequal v hv _ hmem
  have hmean : s.mean = fin sorted[0] := by
    have hbetween := meanOf_between hne
      fun v hv => ⟨(hall v hv).ge, (hall v hv).le⟩
    rw [h.mean, meanOf_map_fin hne, le_antisymm hbetween.2 hbetween.1]
  obtain ⟨m, hm, hmedian⟩ := exists_medianOfSorted
    (P := fun x => x = sorted[0]) (fun x y hx hy => by rw [hx, hy]; ring) hne
    fun k hk _ _ => hall _ (List.getElem_mem hk)
  have hs : s.median = fin sorted[0] := by
    rw [← hm]
    exact Option.some.inj (h.median.symm.trans hmedian)
  constructor
  · rw [h.stddev, hmean, stddevOf_eq_zero hall]
  · intro d hd
    rw [h.mad, hs] at hd
    obtain ⟨x, rfl, rfl⟩ := of_madOf_eq_some (P := fun d => d = 0)
      (fun x y hx hy => by rw [hx, hy]; ring)
      (fun v hv => by rw [hall v hv, sub_self, abs_zero]) hd
    rfl

end Describe

end Exact

/-- Samples have one summary in whatever order they are taken.  It is in order,
and shows no spread where the samples are equal. -/
theorem summarize_orderBlind {samples : List ℝ} (hne : samples ≠ []) :
    ∃ s : Summary Exact, s.n = samples.length ∧
      (∀ samples' : List ℝ, samples'.Perm samples →
        summarize (samples'.map Exact.fin) = some s) ∧
      s.IsOrdered ∧
      ((∀ x ∈ samples, ∀ y ∈ samples, x = y) → s.IsFlat) := by
  have hperm := Exact.sortReal_perm samples
  have hne' := Exact.sortReal_ne_nil hne
  obtain ⟨m, -, hmedian⟩ := Exact.exists_medianOfSorted (P := fun _ => True)
    (fun _ _ _ _ => trivial) hne' fun _ _ _ _ => trivial
  have hmap : (Exact.sortReal samples).map Exact.fin ≠ [] :=
    fun hnil => hne' (List.map_eq_nil_iff.mp hnil)
  obtain ⟨s, hs, hdescribes⟩ := exists_describe hmap hmedian
  have hm : s.median = .fin m :=
    Option.some.inj (hdescribes.median.symm.trans hmedian)
  refine ⟨s, ?_, ?_, Exact.isOrdered_describe (Exact.sortReal_pairwise samples)
    hne' hs hdescribes hm, ?_⟩
  · rw [(describe_extremes hs).1, List.length_map, hperm.length_eq]
  · intro samples' h
    have hfilled : ((samples'.map Exact.fin).isEmpty ||
        (samples'.map Exact.fin).any fun v => !F64.isFinite v) = false := by
      have hne'' : samples' ≠ [] := by
        rintro rfl
        exact hne (List.perm_nil.mp h.symm)
      simp [hne'']
    rw [summarize, hfilled, if_neg Bool.false_ne_true,
      Exact.sortPartial_map_fin, Exact.sortReal_eq_of_perm h]
    exact hs
  · intro hequal
    refine Exact.isFlat_describe hne' hdescribes ?_
    intro x hx y hy
    exact hequal x (hperm.mem_iff.mp hx) y (hperm.mem_iff.mp hy)

/-- Seven samples in two orders. -/
theorem summarize_orderBlind_seven :
    ∃ s : Summary Exact, s.n = ([3, 1, 4, 1, 5, 9, 2] : List ℝ).length ∧
      (∀ samples' : List ℝ, samples'.Perm [3, 1, 4, 1, 5, 9, 2] →
        summarize (samples'.map Exact.fin) = some s) ∧
      s.IsOrdered ∧
      ((∀ x ∈ ([3, 1, 4, 1, 5, 9, 2] : List ℝ),
        ∀ y ∈ ([3, 1, 4, 1, 5, 9, 2] : List ℝ), x = y) → s.IsFlat) :=
  summarize_orderBlind (List.cons_ne_nil _ _)

end Darcbench
