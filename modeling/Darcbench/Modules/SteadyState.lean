import Darcbench.Protocol.Breakdown
import Darcbench.Protocol.Metrics
import Mathlib.Tactic.FieldSimp
import Mathlib.Tactic.Linarith

/-!
# The steady state of the storage metrics

A metric that is written to reports how much of its opening performance was
still there at the end.  Both ends are summarised by one of the middle samples
of a third, always by the greater one of two.
-/

namespace Darcbench

open OrderStatistics (IsMiddles exists_isMiddles)

/-- The second value is at most as good as the first. -/
def Direction.AtMost : Direction → ℝ → ℝ → Prop
  | higherIsBetter, x, y => y ≤ x
  | lowerIsBetter, x, y => x ≤ y

namespace StorageMixed

section

variable {F : Type} [F64 F]

def median (slice : List F) : Option F :=
  let v := F64.sortTotal slice
  v[v.length / 2]?

/-- The number of samples at either end that are looked at. -/
def third (measured : List F) : ℕ :=
  max (measured.length / 3) 1

/-- The fraction of the opening performance that was still there at the end. -/
def steadyStateRatio (measured : List F) (direction : Direction) :
    Option F :=
  if measured.length < 4 then
    none
  else do
    let first ← median (measured.take (third measured))
    let last ← median (measured.drop (measured.length - third measured))
    if first ≤ 0.0 ∨ last ≤ 0.0 ∨ F64.isNan first = true ∨
        F64.isNan last = true then
      none
    else
      let retained :=
        match direction with
        | .higherIsBetter => last / first
        | .lowerIsBetter => first / last
      if F64.isFinite retained then some retained else none

end

/-! ## Exact arithmetic -/

/-- The first third of the samples. -/
def opening (samples : List ℝ) : List ℝ :=
  samples.take (max (samples.length / 3) 1)

/-- The last third of the samples. -/
def closing (samples : List ℝ) : List ℝ :=
  samples.drop (samples.length - max (samples.length / 3) 1)

/-- What is kept of a first value in a last one. -/
noncomputable def kept (direction : Direction) (first last : ℝ) : ℝ :=
  match direction with
  | .higherIsBetter => last / first
  | .lowerIsBetter => first / last

theorem sortTotal_map_fin (values : List ℝ) :
    F64.sortTotal (values.map Exact.fin) =
      (Exact.sortReal values).map Exact.fin := by
  refine (List.map_mergeSort fun x _ y _ => ?_).symm
  rw [Exact.totalLe_fin]

/-- The median is the greater one of the middle values. -/
theorem median_map_fin {low high : ℝ} {values : List ℝ}
    (h : IsMiddles low high values) :
    median (values.map Exact.fin) = some (.fin high) := by
  obtain ⟨sorted, hperm, hsorted, -, hhigh⟩ := h
  have hsort : Exact.sortReal values = sorted :=
    ((Exact.sortReal_perm values).trans hperm.symm).eq_of_pairwise'
      (Exact.sortReal_pairwise values) hsorted
  have hlength : (sorted.map Exact.fin).length = values.length := by
    rw [List.length_map, hperm.length_eq]
  rw [median, sortTotal_map_fin, hsort, hlength, List.getElem?_map, hhigh,
    Option.map_some]

/-- The ratio of positive samples, in terms of the middle values. -/
theorem steadyStateRatio_eq {samples : List ℝ} (hlength : 4 ≤ samples.length)
    {low high low' high' : ℝ} (hopening : IsMiddles low high (opening samples))
    (hclosing : IsMiddles low' high' (closing samples)) (hhigh : 0 < high)
    (hhigh' : 0 < high') (direction : Direction) :
    steadyStateRatio (samples.map Exact.fin) direction =
      some (.fin (kept direction high high')) := by
  have hfirst : median ((samples.map Exact.fin).take
      (third (samples.map Exact.fin))) = some (.fin high) := by
    rw [third, List.length_map, ← List.map_take]
    exact median_map_fin hopening
  have hlast : median ((samples.map Exact.fin).drop
      ((samples.map Exact.fin).length - third (samples.map Exact.fin))) =
        some (.fin high') := by
    rw [third, List.length_map, ← List.map_drop]
    exact median_map_fin hclosing
  have hlong : ¬ (samples.map Exact.fin).length < 4 := by
    rw [List.length_map]
    exact not_lt.mpr hlength
  rw [steadyStateRatio, if_neg hlong, hfirst, hlast, Option.bind_eq_bind,
    Option.bind_some, Option.bind_some, if_neg]
  · cases direction with
    | higherIsBetter =>
        simp only [Exact.fin_div_fin _ hhigh.ne', Exact.isFinite_fin]
        rfl
    | lowerIsBetter =>
        simp only [Exact.fin_div_fin _ hhigh'.ne', Exact.isFinite_fin]
        rfl
  · rw [Exact.zero_eq, Exact.isNan_fin, Exact.isNan_fin]
    rintro (h | h | h | h)
    · exact not_le.mpr hhigh h
    · exact not_le.mpr hhigh' h
    · exact Bool.false_ne_true h
    · exact Bool.false_ne_true h

/-! ## The two thirds -/

section Thirds

variable {samples : List ℝ}

theorem opening_map (f : ℝ → ℝ) :
    opening (samples.map f) = (opening samples).map f := by
  rw [opening, opening, List.length_map, List.map_take]

theorem closing_map (f : ℝ → ℝ) :
    closing (samples.map f) = (closing samples).map f := by
  rw [closing, closing, List.length_map, List.map_drop]

theorem max_third (hlength : 4 ≤ samples.length) :
    max (samples.length / 3) 1 = samples.length / 3 :=
  max_eq_left (by omega)

theorem opening_ne_nil (hlength : 4 ≤ samples.length) :
    opening samples ≠ [] := by
  intro hnil
  have hcount := congrArg List.length hnil
  rw [opening, List.length_take, max_third hlength, List.length_nil] at hcount
  omega

theorem closing_ne_nil (hlength : 4 ≤ samples.length) :
    closing samples ≠ [] := by
  intro hnil
  have hcount := congrArg List.length hnil
  rw [closing, List.length_drop, max_third hlength, List.length_nil] at hcount
  omega

/-- The samples of the first third come before those of the last. -/
theorem rel_of_pairwise {R : ℝ → ℝ → Prop} (hlength : 4 ≤ samples.length)
    (h : samples.Pairwise R) {x y : ℝ} (hx : x ∈ opening samples)
    (hy : y ∈ closing samples) : R x y := by
  rw [opening, max_third hlength] at hx
  rw [closing, max_third hlength] at hy
  obtain ⟨i, hi, rfl⟩ := List.mem_take_iff_getElem.mp hx
  obtain ⟨j, hj, rfl⟩ := List.mem_drop_iff_getElem.mp hy
  exact List.pairwise_iff_getElem.mp h i _ _ _ (by omega)

/-- The thirds of samples that are given in three parts. -/
theorem thirds_append {first middle last : List ℝ}
    (hlength : 4 ≤ (first ++ middle ++ last).length)
    (hfirst : first.length = (first ++ middle ++ last).length / 3)
    (hlast : last.length = (first ++ middle ++ last).length / 3) :
    opening (first ++ middle ++ last) = first ∧
      closing (first ++ middle ++ last) = last := by
  constructor
  · rw [opening, max_third hlength, ← hfirst, List.append_assoc,
      List.take_left' rfl]
  · rw [closing, max_third hlength, ← hlast]
    refine List.drop_left' ?_
    rw [@List.length_append _ (first ++ middle), Nat.add_sub_cancel]

end Thirds

/-! ## Both directions -/

/-- Throughput and latency are treated alike, and the ratio says how much of the
performance was kept. -/
structure TreatsAlike (samples : List ℝ) : Prop where
  inverted : steadyStateRatio (samples.map .fin) .higherIsBetter =
    steadyStateRatio (samples.map fun x => Exact.fin x⁻¹) .lowerIsBetter
  le_one : ∀ direction : Direction, samples.Pairwise direction.AtMost →
    ∃ r ≤ 1, steadyStateRatio (samples.map .fin) direction =
      some (Exact.fin r)
  one_le : ∀ direction : Direction,
    samples.Pairwise (fun x y => direction.AtMost y x) →
      ∃ r, 1 ≤ r ∧ steadyStateRatio (samples.map .fin) direction =
        some (Exact.fin r)
  scaled : ∀ c : ℝ, 0 < c → ∀ direction,
    steadyStateRatio (samples.map fun x => Exact.fin (c * x)) direction =
      steadyStateRatio (samples.map .fin) direction
  permuted : ∀ first middle last first' last' : List ℝ,
    samples = first ++ middle ++ last → first.length = samples.length / 3 →
      last.length = samples.length / 3 → first.Perm first' →
      last.Perm last' → ∀ direction,
        steadyStateRatio ((first' ++ middle ++ last').map Exact.fin)
            direction =
          steadyStateRatio (samples.map .fin) direction

section Middles

variable {samples : List ℝ} {low high low' high' : ℝ}

/-- Samples whose thirds have these middle values, all of them positive. -/
structure HasMiddles (samples : List ℝ) (low high low' high' : ℝ) :
    Prop where
  length : 4 ≤ samples.length
  pos : ∀ x ∈ samples, 0 < x
  opening : IsMiddles low high (opening samples)
  closing : IsMiddles low' high' (closing samples)

theorem exists_hasMiddles (hlength : 4 ≤ samples.length)
    (hpos : ∀ x ∈ samples, 0 < x) :
    ∃ low high low' high', HasMiddles samples low high low' high' := by
  obtain ⟨low, high, hopening⟩ := exists_isMiddles (opening_ne_nil hlength)
  obtain ⟨low', high', hclosing⟩ := exists_isMiddles (closing_ne_nil hlength)
  exact ⟨low, high, low', high', hlength, hpos, hopening, hclosing⟩

namespace HasMiddles

theorem low_pos (h : HasMiddles samples low high low' high') : 0 < low :=
  h.pos low (List.mem_of_mem_take h.opening.low_mem)

theorem high_pos (h : HasMiddles samples low high low' high') : 0 < high :=
  h.pos high (List.mem_of_mem_take h.opening.high_mem)

theorem low'_pos (h : HasMiddles samples low high low' high') : 0 < low' :=
  h.pos low' (List.mem_of_mem_drop h.closing.low_mem)

theorem high'_pos (h : HasMiddles samples low high low' high') : 0 < high' :=
  h.pos high' (List.mem_of_mem_drop h.closing.high_mem)

theorem ratio (h : HasMiddles samples low high low' high')
    (direction : Direction) :
    steadyStateRatio (samples.map Exact.fin) direction =
      some (.fin (kept direction high high')) :=
  steadyStateRatio_eq h.length h.opening h.closing h.high_pos h.high'_pos
    direction

/-- The inverses of the samples have the inverse middle values, in the other
order. -/
theorem inv (h : HasMiddles samples low high low' high') :
    HasMiddles (samples.map (·⁻¹)) high⁻¹ low⁻¹ high'⁻¹ low'⁻¹ where
  length := by
    rw [List.length_map]
    exact h.length
  pos := by
    intro y hy
    obtain ⟨x, hx, rfl⟩ := List.mem_map.mp hy
    exact inv_pos.mpr (h.pos x hx)
  opening := by
    rw [opening_map]
    refine h.opening.map_reverse fun a ha b _ hab => ?_
    exact inv_anti₀ (h.pos a (List.mem_of_mem_take ha)) hab
  closing := by
    rw [closing_map]
    refine h.closing.map_reverse fun a ha b _ hab => ?_
    exact inv_anti₀ (h.pos a (List.mem_of_mem_drop ha)) hab

theorem scale (h : HasMiddles samples low high low' high') {c : ℝ}
    (hc : 0 < c) :
    HasMiddles (samples.map (c * ·)) (c * low) (c * high) (c * low')
      (c * high') where
  length := by
    rw [List.length_map]
    exact h.length
  pos := by
    intro y hy
    obtain ⟨x, hx, rfl⟩ := List.mem_map.mp hy
    exact mul_pos hc (h.pos x hx)
  opening := by
    rw [opening_map]
    exact h.opening.map fun a _ b _ hab => mul_le_mul_of_nonneg_left hab hc.le
  closing := by
    rw [closing_map]
    exact h.closing.map fun a _ b _ hab => mul_le_mul_of_nonneg_left hab hc.le

/-- The order of the samples within each third does not matter. -/
theorem permute {first middle last first' last' : List ℝ}
    (h : HasMiddles (first ++ middle ++ last) low high low' high')
    (hfirst : first.length = (first ++ middle ++ last).length / 3)
    (hlast : last.length = (first ++ middle ++ last).length / 3)
    (hperm : first.Perm first') (hperm' : last.Perm last') :
    HasMiddles (first' ++ middle ++ last') low high low' high' := by
  have hall : (first ++ middle ++ last).Perm (first' ++ middle ++ last') :=
    (hperm.append_right middle).append hperm'
  have hlength : 4 ≤ (first' ++ middle ++ last').length :=
    hall.length_eq ▸ h.length
  obtain ⟨hopening, hclosing⟩ := thirds_append h.length hfirst hlast
  obtain ⟨hopening', hclosing'⟩ := thirds_append hlength
    (hperm.length_eq ▸ hall.length_eq ▸ hfirst)
    (hperm'.length_eq ▸ hall.length_eq ▸ hlast)
  have hmiddles := h.opening
  have hmiddles' := h.closing
  rw [hopening] at hmiddles
  rw [hclosing] at hmiddles'
  exact
    { length := hlength
      pos := fun x hx => h.pos x (hall.mem_iff.mpr hx)
      opening := hopening'.symm ▸ hmiddles.perm hperm
      closing := hclosing'.symm ▸ hmiddles'.perm hperm' }

end HasMiddles

end Middles

/-- Both directions are treated alike exactly when the two middle samples of the
last third are to each other as those of the first. -/
theorem treatsAlike_iff (samples : List ℝ) (hlength : 4 ≤ samples.length)
    (hpos : ∀ x ∈ samples, 0 < x) :
    TreatsAlike samples ↔ ∀ low high low' high',
      IsMiddles low high (opening samples) →
        IsMiddles low' high' (closing samples) →
          high' * low = low' * high := by
  obtain ⟨low, high, low', high', h⟩ := exists_hasMiddles hlength hpos
  have hhigh := h.high_pos
  have hhigh' := h.high'_pos
  have hlow := h.low_pos
  have hlow' := h.low'_pos
  have hinverse : steadyStateRatio (samples.map fun x => Exact.fin x⁻¹)
      .lowerIsBetter = some (.fin (low' / low)) := by
    have hratio := h.inv.ratio .lowerIsBetter
    rw [List.map_map] at hratio
    have hkept : kept .lowerIsBetter low⁻¹ low'⁻¹ = low' / low := by
      rw [kept, inv_div_inv]
    rwa [hkept] at hratio
  have hratio : steadyStateRatio (samples.map Exact.fin) .higherIsBetter =
      some (.fin (high' / high)) := h.ratio .higherIsBetter
  constructor
  · intro halike a b a' b' ha ha'
    obtain ⟨rfl, rfl⟩ := ha.unique h.opening
    obtain ⟨rfl, rfl⟩ := ha'.unique h.closing
    have hequal := halike.inverted
    rw [hratio, hinverse, Option.some.injEq, Exact.fin.injEq,
      div_eq_div_iff hhigh.ne' hlow.ne'] at hequal
    exact hequal
  · intro hmiddles
    have hproportion := hmiddles _ _ _ _ h.opening h.closing
    have hworse : ∀ direction : Direction, direction.AtMost high high' →
        kept direction high high' ≤ 1 := by
      intro direction hle
      cases direction with
      | higherIsBetter => exact (div_le_one hhigh).mpr hle
      | lowerIsBetter => exact (div_le_one hhigh').mpr hle
    have hbetter : ∀ direction : Direction, direction.AtMost high' high →
        1 ≤ kept direction high high' := by
      intro direction hle
      cases direction with
      | higherIsBetter => exact (one_le_div hhigh).mpr hle
      | lowerIsBetter => exact (one_le_div hhigh').mpr hle
    exact
      { inverted := by
          rw [hratio, hinverse, Option.some.injEq, Exact.fin.injEq,
            div_eq_div_iff hhigh.ne' hlow.ne']
          exact hproportion
        le_one := fun direction hpairwise =>
          ⟨_, hworse direction (rel_of_pairwise hlength hpairwise
            h.opening.high_mem h.closing.high_mem), h.ratio direction⟩
        one_le := fun direction hpairwise =>
          ⟨_, hbetter direction (rel_of_pairwise hlength hpairwise
            h.opening.high_mem h.closing.high_mem), h.ratio direction⟩
        scaled := by
          intro c hc direction
          have hscaled := (h.scale hc).ratio direction
          rw [List.map_map] at hscaled
          have hkept : kept direction (c * high) (c * high') =
              kept direction high high' := by
            cases direction with
            | higherIsBetter => exact mul_div_mul_left _ _ hc.ne'
            | lowerIsBetter => exact mul_div_mul_left _ _ hc.ne'
          rw [hkept, ← h.ratio direction] at hscaled
          exact hscaled
        permuted := by
          rintro first middle last first' last' rfl hfirst hlast hperm hperm'
            direction
          rw [h.ratio direction]
          exact (h.permute hfirst hlast hperm hperm').ratio direction }

/-- Windows of a single sample. -/
theorem treatsAlike_fourSamples : TreatsAlike [4, 3, 2, 1] := by
  refine (treatsAlike_iff _ le_rfl (by norm_num)).mpr ?_
  intro low high low' high' h h'
  have hlow : low = 4 := List.mem_singleton.mp h.low_mem
  have hhigh : high = 4 := List.mem_singleton.mp h.high_mem
  have hlow' : low' = 1 := List.mem_singleton.mp h'.low_mem
  have hhigh' : high' = 1 := List.mem_singleton.mp h'.high_mem
  rw [hlow, hhigh, hlow', hhigh']

/-- Half of the performance is lost as a throughput, and none as a latency. -/
theorem not_treatsAlike_sixSamples : ¬ TreatsAlike [1, 2, 1, 1, 1, 1] := by
  have hopening : IsMiddles (1 : ℝ) 2 [1, 2] :=
    ⟨[1, 2], .refl _, by norm_num, rfl, rfl⟩
  have hclosing : IsMiddles (1 : ℝ) 1 [1, 1] :=
    ⟨[1, 1], .refl _, by norm_num, rfl, rfl⟩
  have hinverse : IsMiddles (2⁻¹ : ℝ) 1⁻¹ [1⁻¹, 2⁻¹] :=
    ⟨[2⁻¹, 1⁻¹], .swap _ _ _, by norm_num, rfl, rfl⟩
  have hinverse' : IsMiddles (1⁻¹ : ℝ) 1⁻¹ [1⁻¹, 1⁻¹] :=
    ⟨[1⁻¹, 1⁻¹], .refl _, by norm_num, rfl, rfl⟩
  intro halike
  have hequal := halike.inverted
  have hthroughput := @steadyStateRatio_eq [1, 2, 1, 1, 1, 1] (by decide)
    _ _ _ _ hopening hclosing two_pos one_pos .higherIsBetter
  have hlatency := @steadyStateRatio_eq [1⁻¹, 2⁻¹, 1⁻¹, 1⁻¹, 1⁻¹, 1⁻¹]
    (by decide) _ _ _ _ hinverse hinverse' (by norm_num) (by norm_num)
    .lowerIsBetter
  rw [hthroughput] at hequal
  have hsome := hequal.trans hlatency
  norm_num [kept] at hsome

end StorageMixed

end Darcbench
