import Darcbench.Agent.Comparison
import Darcbench.Scoring.Contributions
import Darcbench.Scoring.ScopedKeys

/-!
# Comparing the other way round

The two comparisons of a pair of runs agree in everything but the ratios, which
are reciprocal for exactly those metrics whose rows store the same direction or
the same value.
-/

namespace Darcbench

namespace RunRow

variable {F : Type} {row : RunRow F}

/-- The metrics of the opening cycle, under their keys. -/
theorem getElem?_metricsOf {key : String} {metric : IndexedMetric F} :
    row.metricsOf[key]? = some metric ↔
      ∃ m ∈ row.openingMetrics, m.scope = key ∧ m.toIndexed = metric := by
  constructor
  · intro h
    obtain ⟨m, hm, hentry⟩ :=
      List.mem_map.mp (BTreeMap.mem_of_getElem?_ofList h)
    exact ⟨m, hm, congrArg Prod.fst hentry, congrArg Prod.snd hentry⟩
  · rintro ⟨m, hm, rfl, rfl⟩
    refine BTreeMap.getElem?_ofList_of_mem ?_ (List.mem_map_of_mem hm)
    rw [List.map_map]
    refine List.Nodup.map_on ?_
      ((List.Nodup.of_map _ row.metrics.nodup).filter _)
    intro a ha b hb hscope
    obtain ⟨hmodule, hkey⟩ := scopedKey_inj hscope
    rw [openingMetrics, List.mem_filter, decide_eq_true_eq] at ha hb
    refine List.inj_on_of_nodup_map row.metrics.nodup ha.1 hb.1 ?_
    rw [MetricRow.key, MetricRow.key, hmodule, hkey, ha.2, hb.2]

end RunRow

/-! ## One metric of both runs -/

section

variable {baseline candidate : BTreeMap String (IndexedMetric Exact)}
  {key : String} {left right : IndexedMetric Exact}

/-- All values are numbers. -/
def AllReal (metrics : BTreeMap String (IndexedMetric Exact)) : Prop :=
  ∀ (key : String) (metric : IndexedMetric Exact),
    metrics[key]? = some metric → ∃ x, metric.value = .fin x

/-- Both runs measured something positive. -/
def Positive (left right : IndexedMetric Exact) : Prop :=
  0.0 < left.value ∧ 0.0 < right.value

theorem exists_pos_of_positive {x : Exact} (h : ∃ y, x = .fin y)
    (hpos : 0.0 < x) : ∃ y : ℝ, 0 < y ∧ x = .fin y := by
  obtain ⟨y, rfl⟩ := h
  rw [Exact.zero_eq, Exact.fin_lt_fin] at hpos
  exact ⟨y, hpos, rfl⟩

theorem IndexedMetric.ratio_fin {x y : ℝ} (hleft : left.value = .fin x)
    (hright : right.value = .fin y) (hx : 0 < x) (hy : 0 < y) :
    left.ratio right = .fin
      (if left.direction = .higherIsBetter then y / x else x / y) := by
  rw [IndexedMetric.ratio, hleft, hright]
  cases left.direction with
  | higherIsBetter =>
      rw [if_pos rfl]
      exact Exact.fin_div_fin y hx.ne'
  | lowerIsBetter =>
      rw [if_neg (by decide)]
      exact Exact.fin_div_fin x hy.ne'

theorem account_of_positive (hright : candidate[key]? = some right)
    (hpos : Positive left right) (hl : ∃ x, left.value = .fin x)
    (hr : ∃ x, right.value = .fin x) :
    account candidate (key, left) = .matched (left.delta right) := by
  obtain ⟨x, hx, hleft⟩ := exists_pos_of_positive hl hpos.1
  obtain ⟨y, hy, hvalue⟩ := exists_pos_of_positive hr hpos.2
  have hlow : ¬ (left.value ≤ 0.0 ∨ right.value ≤ 0.0) := by
    rw [hleft, hvalue, Exact.zero_eq, Exact.fin_le_fin, Exact.fin_le_fin]
    exact not_or.mpr ⟨not_le.mpr hx, not_le.mpr hy⟩
  have hfinite : F64.isFinite (left.ratio right) = true := by
    rw [IndexedMetric.ratio_fin hleft hvalue hx hy]
    rfl
  simp only [account, hright, if_neg hlow, if_pos hfinite]

/-- The reasons why a metric is not lined up. -/
def noteReasons : List String :=
  [" (baseline only)", " (candidate only)",
    " (not a positive measurement in both runs)", " (ratio is not finite)"]

/-- The texts that name a metric which is not lined up. -/
def notes (key : String) : List String :=
  noteReasons.map fun reason => key ++ reason

theorem account_of_not_positive (hleft : baseline[key]? = some left)
    (hreal : AllReal baseline) (hreal' : AllReal candidate)
    (h : ¬ ∃ right, candidate[key]? = some right ∧ Positive left right) :
    ∃ text ∈ notes key,
      account candidate (key, left) = .unmatched text := by
  cases hright : candidate[key]? with
  | none =>
      refine ⟨key ++ " (baseline only)", List.mem_cons_self, ?_⟩
      simp only [account, hright]
  | some right =>
      have hlow : left.value ≤ 0.0 ∨ right.value ≤ 0.0 := by
        obtain ⟨x, hx⟩ := hreal key left hleft
        obtain ⟨y, hy⟩ := hreal' key right hright
        by_contra hnot
        refine h ⟨right, hright, ?_⟩
        rw [hx, hy, Exact.zero_eq, Exact.fin_le_fin, Exact.fin_le_fin,
          not_or, not_le, not_le] at hnot
        rw [Positive, hx, hy, Exact.zero_eq]
        exact hnot
      refine ⟨key ++ " (not a positive measurement in both runs)", ?_, ?_⟩
      · simp [notes, noteReasons]
      · simp only [account, hright, if_pos hlow]

theorem account_eq_matched {entry : String × IndexedMetric Exact}
    {delta : MetricDelta Exact}
    (h : account candidate entry = .matched delta) :
    ∃ right, candidate[entry.1]? = some right ∧
      delta = entry.2.delta right := by
  rw [account] at h
  split at h
  · exact absurd h (by simp)
  · next right hright =>
      dsimp only at h
      split_ifs at h
      exact ⟨right, hright, (Account.matched.inj h).symm⟩

theorem account_eq_unmatched {entry : String × IndexedMetric Exact}
    {text : String} (h : account candidate entry = .unmatched text) :
    text ∈ notes entry.1 := by
  rw [account] at h
  split at h
  · obtain rfl := Account.unmatched.inj h
    simp [notes, noteReasons]
  · dsimp only at h
    split_ifs at h
    · obtain rfl := Account.unmatched.inj h
      simp [notes, noteReasons]
    · obtain rfl := Account.unmatched.inj h
      simp [notes, noteReasons]

/-- A text is about one key only. -/
theorem notes_inj {key key' text : String} (h : text ∈ notes key)
    (h' : text ∈ notes key') : key = key' := by
  rw [notes, List.mem_map] at h h'
  obtain ⟨reason, hreason, rfl⟩ := h
  obtain ⟨reason', hreason', htext⟩ := h'
  have hchars : key'.toList ++ reason'.toList =
      key.toList ++ reason.toList := by
    rw [← String.toList_append, htext, String.toList_append]
  have hseparate : ∀ a ∈ noteReasons, ∀ b ∈ noteReasons,
      a.toList <:+ b.toList → a = b := by
    decide
  have hsame : reason = reason' := by
    have hsuffix : reason.toList <:+ key.toList ++ reason.toList :=
      List.suffix_append _ _
    have hsuffix' : reason'.toList <:+ key.toList ++ reason.toList :=
      ⟨key'.toList, hchars⟩
    rcases List.suffix_or_suffix_of_suffix hsuffix hsuffix' with h | h
    · exact hseparate reason hreason reason' hreason' h
    · exact (hseparate reason' hreason' reason hreason h).symm
  rw [hsame] at hchars
  exact (String.toList_injective (List.append_cancel_right hchars)).symm

/-- Every metric is stored under its own key. -/
def Keyed (metrics : BTreeMap String (IndexedMetric Exact)) : Prop :=
  ∀ (key : String) (metric : IndexedMetric Exact),
    metrics[key]? = some metric →
      ∃ id : ModuleId, metric.module = id.asStr ∧
        scopedKey metric.module metric.metricKey = key

/-- Both runs measured the metric, and both measurements are positive. -/
def PairedAt (baseline candidate : BTreeMap String (IndexedMetric Exact))
    (key : String) : Prop :=
  ∃ left right, baseline[key]? = some left ∧ candidate[key]? = some right ∧
    Positive left right

theorem PairedAt.symm (h : PairedAt baseline candidate key) :
    PairedAt candidate baseline key := by
  obtain ⟨left, right, hleft, hright, hpos⟩ := h
  exact ⟨right, left, hright, hleft, hpos.symm⟩

theorem pairedAt_comm :
    PairedAt baseline candidate key ↔ PairedAt candidate baseline key :=
  ⟨PairedAt.symm, PairedAt.symm⟩

/-- The metric appears in the comparison as the rule for its key says. -/
theorem account_eq (hkey : baseline[key]? = some left)
    (hb : AllReal baseline) (hc : AllReal candidate) :
    (∃ right, candidate[key]? = some right ∧ Positive left right ∧
        account candidate (key, left) = .matched (left.delta right)) ∨
      ¬ PairedAt baseline candidate key ∧ ∃ text ∈ notes key,
        account candidate (key, left) = .unmatched text := by
  by_cases h : ∃ right, candidate[key]? = some right ∧ Positive left right
  · obtain ⟨right, hright, hpos⟩ := h
    exact .inl ⟨right, hright, hpos, account_of_positive hright hpos
      (hb key left hkey) (hc key right hright)⟩
  · refine .inr ⟨?_, account_of_not_positive hkey hb hc h⟩
    rintro ⟨left', right, hleft', hright, hpos⟩
    obtain rfl := Option.some.inj (hkey.symm.trans hleft')
    exact h ⟨right, hright, hpos⟩

theorem mem_deltas_iff (hb : AllReal baseline) (hc : AllReal candidate)
    {delta : MetricDelta Exact} :
    delta ∈ deltas baseline candidate ↔
      ∃ (key : String) (left right : IndexedMetric Exact),
        baseline[key]? = some left ∧ candidate[key]? = some right ∧
        Positive left right ∧ delta = left.delta right := by
  rw [deltas, List.mem_filterMap]
  constructor
  · rintro ⟨⟨key, left⟩, hentry, hdelta⟩
    have hleft := BTreeMap.mem_toList_iff.mp hentry
    rcases account_eq hleft hb hc with
      ⟨right, hright, hpos, haccount⟩ | ⟨-, text, -, haccount⟩
    · rw [haccount] at hdelta
      exact ⟨key, left, right, hleft, hright, hpos,
        (Option.some.inj hdelta).symm⟩
    · rw [haccount] at hdelta
      exact absurd hdelta (by simp [Account.delta?])
  · rintro ⟨key, left, right, hleft, hright, hpos, rfl⟩
    refine ⟨(key, left), BTreeMap.mem_toList_iff.mpr hleft, ?_⟩
    rw [account_of_positive hright hpos (hb key left hleft)
      (hc key right hright)]
    rfl

/-- The deltas of a comparison that are about a metric. -/
def aboutKey (key : String) (delta : MetricDelta Exact) : Bool :=
  scopedKey delta.module delta.metricKey = key

/-- A key counts one delta if it is paired, and none otherwise. -/
theorem countP_deltas (hb : AllReal baseline) (hc : AllReal candidate)
    (hkeyed : Keyed baseline) (key : String) :
    (PairedAt baseline candidate key →
        (deltas baseline candidate).countP (aboutKey key) = 1) ∧
      (¬ PairedAt baseline candidate key →
        (deltas baseline candidate).countP (aboutKey key) = 0) := by
  have hown : ∀ entry ∈ baseline.toList,
      (((account candidate entry).delta?).map (aboutKey key)).getD false =
        true → entry.1 = key := by
    rintro ⟨key', left⟩ hentry hcount
    have hleft := BTreeMap.mem_toList_iff.mp hentry
    obtain ⟨id, -, hscope⟩ := hkeyed key' left hleft
    rcases account_eq hleft hb hc with
      ⟨right, -, -, haccount⟩ | ⟨-, text, -, haccount⟩
    · rw [haccount] at hcount
      exact hscope.symm.trans (of_decide_eq_true hcount)
    · rw [haccount] at hcount
      exact absurd hcount (by simp [Account.delta?])
  rw [deltas, List.countP_filterMap]
  constructor
  · rintro ⟨left, right, hleft, hright, hpos⟩
    refine BTreeMap.countP_toList_eq_one hleft ?_ hown
    obtain ⟨id, -, hscope⟩ := hkeyed key left hleft
    rw [account_of_positive hright hpos (hb key left hleft)
      (hc key right hright)]
    exact decide_eq_true hscope
  · intro hnot
    refine BTreeMap.countP_toList_eq_zero ?_ hown
    intro left hleft
    rcases account_eq hleft hb hc with
      ⟨right, hright, hpos, -⟩ | ⟨-, text, -, haccount⟩
    · exact absurd ⟨left, right, hleft, hright, hpos⟩ hnot
    · rw [haccount]
      rfl

/-- Whether a text of a comparison is about a metric. -/
def isNote (key text : String) : Bool :=
  decide (text ∈ notes key)

/-- A metric of the baseline counts one text unless it is paired. -/
theorem countP_baselineTexts (hb : AllReal baseline) (hc : AllReal candidate)
    (key : String) :
    ((∃ left, baseline[key]? = some left) →
        ¬ PairedAt baseline candidate key →
        (baseline.toList.filterMap fun entry =>
          (account candidate entry).text?).countP (isNote key) = 1) ∧
      (baseline[key]? = none ∨ PairedAt baseline candidate key →
        (baseline.toList.filterMap fun entry =>
          (account candidate entry).text?).countP (isNote key) = 0) := by
  have hown : ∀ entry ∈ baseline.toList,
      (((account candidate entry).text?).map (isNote key)).getD false =
        true → entry.1 = key := by
    intro entry _ hcount
    cases haccount : account candidate entry with
    | matched delta =>
        rw [haccount] at hcount
        exact absurd hcount (by simp [Account.text?])
    | unmatched text =>
        rw [haccount] at hcount
        exact notes_inj (account_eq_unmatched haccount)
          (of_decide_eq_true hcount)
  rw [List.countP_filterMap]
  constructor
  · rintro ⟨left, hleft⟩ hnot
    refine BTreeMap.countP_toList_eq_one hleft ?_ hown
    rcases account_eq hleft hb hc with
      ⟨right, hright, hpos, -⟩ | ⟨-, text, htext, haccount⟩
    · exact absurd ⟨left, right, hleft, hright, hpos⟩ hnot
    · rw [haccount]
      exact decide_eq_true htext
  · intro hcase
    refine BTreeMap.countP_toList_eq_zero ?_ hown
    intro left hleft
    rcases hcase with hnone | ⟨left', right, hleft', hright, hpos⟩
    · rw [hleft] at hnone
      exact absurd hnone (by simp)
    · obtain rfl := Option.some.inj (hleft.symm.trans hleft')
      rw [account_of_positive hright hpos (hb key left hleft)
        (hc key right hright)]
      rfl

/-- A metric counts one text here if only the candidate has it. -/
theorem countP_candidateTexts
    (baseline candidate : BTreeMap String (IndexedMetric Exact))
    (key : String) :
    (baseline[key]? = none → (∃ right, candidate[key]? = some right) →
        (candidate.toList.filterMap (candidateOnly? baseline)).countP
          (isNote key) = 1) ∧
      ((∃ left, baseline[key]? = some left) →
        (candidate.toList.filterMap (candidateOnly? baseline)).countP
          (isNote key) = 0) := by
  have hnote : ∀ key, key ++ " (candidate only)" ∈ notes key := by
    intro key
    simp [notes, noteReasons]
  have hown : ∀ entry ∈ candidate.toList,
      ((candidateOnly? baseline entry).map (isNote key)).getD false =
        true → entry.1 = key := by
    intro entry _ hcount
    rw [candidateOnly?] at hcount
    split at hcount
    · exact absurd hcount (by simp)
    · exact notes_inj (hnote entry.1) (of_decide_eq_true hcount)
  rw [List.countP_filterMap]
  constructor
  · rintro hnone ⟨right, hright⟩
    refine BTreeMap.countP_toList_eq_one hright ?_ hown
    have hcontains : ¬ baseline.contains key = true := by
      rw [Std.ExtTreeMap.contains_eq_isSome_getElem?, hnone]
      exact Bool.false_ne_true
    rw [candidateOnly?, if_neg hcontains]
    exact decide_eq_true (hnote key)
  · rintro ⟨left, hleft⟩
    refine BTreeMap.countP_toList_eq_zero ?_ hown
    intro right _
    have hcontains : baseline.contains key = true := by
      rw [Std.ExtTreeMap.contains_eq_isSome_getElem?, hleft]
      rfl
    rw [candidateOnly?, if_pos hcontains]
    rfl

/-- A metric of either run counts one text if it is not paired, and none
otherwise. -/
theorem countP_unmatchedTexts (hb : AllReal baseline) (hc : AllReal candidate)
    (key : String) :
    (PairedAt baseline candidate key →
        (unmatchedTexts baseline candidate).countP (isNote key) = 0) ∧
      (¬ PairedAt baseline candidate key →
        (∃ left, baseline[key]? = some left) ∨
          (∃ right, candidate[key]? = some right) →
        (unmatchedTexts baseline candidate).countP (isNote key) = 1) := by
  obtain ⟨hone, hzero⟩ := countP_baselineTexts hb hc key
  obtain ⟨hone', hzero'⟩ := countP_candidateTexts baseline candidate key
  rw [unmatchedTexts, (List.mergeSort_perm _ _).countP_eq, List.countP_append]
  constructor
  · intro hpaired
    obtain ⟨left, right, hleft, -, -⟩ := id hpaired
    rw [hzero (.inr hpaired), hzero' ⟨left, hleft⟩]
  · intro hnot hmem
    cases hleft : baseline[key]? with
    | some left =>
        rw [hone ⟨left, hleft⟩ hnot, hzero' ⟨left, hleft⟩]
    | none =>
        rcases hmem with ⟨left, hleft'⟩ | hright
        · exact absurd (hleft.symm.trans hleft') (by simp)
        · rw [hzero (.inl hleft), hone' hleft hright]

end

/-! ## Reciprocal ratios -/

/-- Two deltas that describe one change from both sides. -/
structure MetricDelta.Mirrors (delta delta' : MetricDelta Exact) : Prop where
  module : delta.module = delta'.module
  metricKey : delta.metricKey = delta'.metricKey
  reciprocal : delta.ratio * delta'.ratio = .fin 1
  /-- One direction calls the change an improvement, the other a decline. -/
  improvement_iff : .fin 1 < delta.ratio ↔ delta'.ratio < .fin 1

theorem mul_self_div_eq_one_iff {x y : ℝ} (hx : 0 < x) (hy : 0 < y) :
    y / x * (y / x) = 1 ↔ x = y := by
  have hpos : 0 < y / x := div_pos hy hx
  rw [mul_self_eq_one_iff]
  constructor
  · rintro (h | h)
    · exact ((div_eq_one_iff_eq hx.ne').mp h).symm
    · exact absurd (h ▸ hpos) (by norm_num)
  · rintro rfl
    exact .inl (div_self hx.ne')

theorem one_lt_iff_of_mul_eq_one {r r' : ℝ} (hr : 0 < r) (h : r * r' = 1) :
    1 < r ↔ r' < 1 := by
  rw [eq_inv_of_mul_eq_one_right h]
  exact (inv_lt_one₀ hr).symm

/-- Swapping a pair of metrics gives the reciprocal ratio exactly if both are
read in the same direction or nothing changed. -/
theorem IndexedMetric.mirrors_iff {left right : IndexedMetric Exact}
    (hmodule : left.module = right.module)
    (hkey : left.metricKey = right.metricKey)
    (hl : ∃ x, left.value = .fin x) (hr : ∃ y, right.value = .fin y)
    (hpos : Positive left right) :
    (left.delta right).Mirrors (right.delta left) ↔
      left.direction = right.direction ∨ left.value = right.value := by
  obtain ⟨x, hx, hleft⟩ := exists_pos_of_positive hl hpos.1
  obtain ⟨y, hy, hright⟩ := exists_pos_of_positive hr hpos.2
  let r : ℝ := if left.direction = .higherIsBetter then y / x else x / y
  let r' : ℝ := if right.direction = .higherIsBetter then x / y else y / x
  have hratio : left.ratio right = .fin r := ratio_fin hleft hright hx hy
  have hratio' : right.ratio left = .fin r' := ratio_fin hright hleft hy hx
  have hrpos : 0 < r := by
    dsimp only [r]
    split
    · exact div_pos hy hx
    · exact div_pos hx hy
  have hmirrors : (left.delta right).Mirrors (right.delta left) ↔
      r * r' = 1 := by
    constructor
    · intro h
      have hproduct := h.reciprocal
      rw [delta, delta, hratio, hratio', Exact.fin_mul_fin] at hproduct
      exact Exact.fin.inj hproduct
    · intro h
      refine ⟨hmodule, hkey, ?_, ?_⟩
      · rw [delta, delta, hratio, hratio', Exact.fin_mul_fin, h]
      · rw [delta, delta, hratio, hratio', Exact.fin_lt_fin,
          Exact.fin_lt_fin]
        exact one_lt_iff_of_mul_eq_one hrpos h
  have hsame : y / x * (x / y) = 1 := by
    rw [div_mul_div_cancel₀ hx.ne', div_self hy.ne']
  have hsame' : x / y * (y / x) = 1 := by
    rw [mul_comm, hsame]
  rw [hmirrors, hleft, hright, Exact.fin.injEq]
  dsimp only [r, r']
  cases left.direction with
  | higherIsBetter =>
      cases right.direction with
      | higherIsBetter => simp [hsame]
      | lowerIsBetter => simpa using mul_self_div_eq_one_iff hx hy
  | lowerIsBetter =>
      cases right.direction with
      | higherIsBetter =>
          simpa [eq_comm] using mul_self_div_eq_one_iff hy hx
      | lowerIsBetter => simp [hsame']

section

variable {baseline candidate : BTreeMap String (IndexedMetric Exact)}

theorem Keyed.eq_of_getElem? (hb : Keyed baseline) (hc : Keyed candidate)
    {key : String} {left right : IndexedMetric Exact}
    (hleft : baseline[key]? = some left)
    (hright : candidate[key]? = some right) :
    left.module = right.module ∧ left.metricKey = right.metricKey := by
  obtain ⟨id, hid, hscope⟩ := hb key left hleft
  obtain ⟨id', hid', hscope'⟩ := hc key right hright
  rw [hid] at hscope ⊢
  rw [hid'] at hscope' ⊢
  obtain ⟨rfl, hkey⟩ := scopedKey_inj (hscope.trans hscope'.symm)
  exact ⟨rfl, hkey⟩

/-- The keys of the deltas ascend. -/
theorem deltas_sorted (hb : AllReal baseline) (hc : AllReal candidate)
    (hkeyed : Keyed baseline) :
    ((deltas baseline candidate).map fun delta =>
      scopedKey delta.module delta.metricKey).Pairwise (· < ·) := by
  refine (BTreeMap.keys_toList_sorted baseline).sublist
    (map_filterMap_sublist ?_)
  rintro ⟨key, left⟩ hentry delta hdelta
  have hleft := BTreeMap.mem_toList_iff.mp hentry
  obtain ⟨id, -, hscope⟩ := hkeyed key left hleft
  rcases account_eq hleft hb hc with
    ⟨right, -, -, haccount⟩ | ⟨-, text, -, haccount⟩
  · rw [haccount] at hdelta
    obtain rfl := Option.some.inj hdelta
    exact hscope
  · rw [haccount] at hdelta
    exact absurd hdelta (by simp [Account.delta?])

/-- Paired metrics are read in the same direction or did not change. -/
def Oriented (baseline candidate : BTreeMap String (IndexedMetric Exact)) :
    Prop :=
  ∀ (key : String) (left right : IndexedMetric Exact),
    baseline[key]? = some left → candidate[key]? = some right →
    Positive left right →
    left.direction = right.direction ∨ left.value = right.value

theorem deltas_mirror_iff (hb : AllReal baseline) (hc : AllReal candidate)
    (hkb : Keyed baseline) (hkc : Keyed candidate) :
    List.Forall₂ MetricDelta.Mirrors (deltas baseline candidate)
        (deltas candidate baseline) ↔
      Oriented baseline candidate := by
  have hpair : ∀ {key : String} {left right : IndexedMetric Exact},
      baseline[key]? = some left →
      candidate[key]? = some right → Positive left right →
      ((left.delta right).Mirrors (right.delta left) ↔
        left.direction = right.direction ∨ left.value = right.value) := by
    intro key left right hleft hright hpos
    obtain ⟨hmodule, hkey⟩ := hkb.eq_of_getElem? hkc hleft hright
    exact IndexedMetric.mirrors_iff hmodule hkey (hb key left hleft)
      (hc key right hright) hpos
  constructor
  · intro h key left right hleft hright hpos
    have hmem : left.delta right ∈ deltas baseline candidate :=
      (mem_deltas_iff hb hc).mpr ⟨key, left, right, hleft, hright, hpos, rfl⟩
    obtain ⟨delta', hmem', hmirrors⟩ := exists_rel_of_forall₂ h hmem
    obtain ⟨key', right', left', hright', hleft', hpos', rfl⟩ :=
      (mem_deltas_iff hc hb).mp hmem'
    obtain ⟨id, -, hscope⟩ := hkb key left hleft
    obtain ⟨id', -, hscope'⟩ := hkc key' right' hright'
    have hkey : key = key' := by
      rw [← hscope, ← hscope']
      exact congrArg₂ scopedKey hmirrors.module hmirrors.metricKey
    subst hkey
    obtain rfl := Option.some.inj (hleft.symm.trans hleft')
    obtain rfl := Option.some.inj (hright.symm.trans hright')
    exact (hpair hleft hright hpos).mp hmirrors
  · intro h
    refine forall₂_of_sorted_keys (deltas_sorted hb hc hkb)
      (deltas_sorted hc hb hkc) ?_ ?_
    · intro delta hdelta
      obtain ⟨key, left, right, hleft, hright, hpos, rfl⟩ :=
        (mem_deltas_iff hb hc).mp hdelta
      have hmirrors := (hpair hleft hright hpos).mpr
        (h key left right hleft hright hpos)
      refine ⟨right.delta left, (mem_deltas_iff hc hb).mpr
        ⟨key, right, left, hright, hleft, hpos.symm, rfl⟩, ?_, hmirrors⟩
      exact congrArg₂ scopedKey hmirrors.module hmirrors.metricKey
    · intro delta hdelta
      obtain ⟨key, right, left, hright, hleft, hpos, rfl⟩ :=
        (mem_deltas_iff hc hb).mp hdelta
      obtain ⟨hmodule, hkey⟩ := hkb.eq_of_getElem? hkc hleft hright
      exact ⟨left.delta right, (mem_deltas_iff hb hc).mpr
        ⟨key, left, right, hleft, hright, hpos.symm, rfl⟩,
        congrArg₂ scopedKey hmodule hkey⟩

end

/-! ## Comparability -/

theorem comparabilityGaps_eq_nil_iff {F : Type}
    (baseline candidate : IndexedRun F) :
    comparabilityGaps baseline candidate = [] ↔
      baseline.environmentDigest = candidate.environmentDigest ∧
        baseline.scoringModel = candidate.scoringModel ∧
        baseline.profile = candidate.profile ∧
        (baseline.profile ≠ "endurance" ∧
          candidate.profile ≠ "endurance") ∧
        baseline.buildTarget = candidate.buildTarget ∧
        baseline.agentVersion = candidate.agentVersion := by
  simp only [comparabilityGaps, List.append_eq_nil_iff, ite_eq_right_iff,
    reduceCtorEq, imp_false, not_or, ne_eq, not_not, and_assoc]

theorem comparabilityGaps_comm {F : Type} (baseline candidate : IndexedRun F) :
    comparabilityGaps baseline candidate = [] ↔
      comparabilityGaps candidate baseline = [] := by
  rw [comparabilityGaps_eq_nil_iff, comparabilityGaps_eq_nil_iff]
  constructor
  · rintro ⟨henvironment, hmodel, hprofile, hcycled, htarget, hversion⟩
    exact ⟨henvironment.symm, hmodel.symm, hprofile.symm, hcycled.symm,
      htarget.symm, hversion.symm⟩
  · rintro ⟨henvironment, hmodel, hprofile, hcycled, htarget, hversion⟩
    exact ⟨henvironment.symm, hmodel.symm, hprofile.symm, hcycled.symm,
      htarget.symm, hversion.symm⟩

theorem basketGaps_eq_nil_iff (before after : BTreeMap String (Finset String)) :
    basketGaps before after = [] ↔
      ∀ (key : String) (ids ids' : Finset String), before[key]? = some ids →
        after[key]? = some ids' → ids = ids' ∨ ids = ∅ ∨ ids' = ∅ := by
  rw [basketGaps, List.filterMap_eq_nil_iff]
  constructor
  · intro h key ids ids' hids hids'
    have hgap := h (key, ids) (BTreeMap.mem_toList_iff.mpr hids)
    simp only [basketGap?, hids'] at hgap
    by_contra hnot
    rw [if_neg hnot] at hgap
    exact absurd hgap (by simp)
  · rintro h ⟨key, ids⟩ hentry
    cases hids' : after[key]? with
    | none => simp only [basketGap?, hids']
    | some ids' =>
        simp only [basketGap?, hids']
        exact if_pos (h key ids ids' (BTreeMap.mem_toList_iff.mp hentry) hids')

theorem basketGaps_comm (before after : BTreeMap String (Finset String)) :
    basketGaps before after = [] ↔ basketGaps after before = [] := by
  have hswap : ∀ {before after : BTreeMap String (Finset String)},
      basketGaps before after = [] → basketGaps after before = [] := by
    intro before after h
    rw [basketGaps_eq_nil_iff] at h ⊢
    intro key ids ids' hids hids'
    rcases h key ids' ids hids' hids with rfl | hempty | hempty
    · exact .inl rfl
    · exact .inr (.inr hempty)
    · exact .inr (.inl hempty)
  exact ⟨hswap, hswap⟩

theorem RunRow.comparable_comm [Rfc3339] (baseline candidate : RunRow Exact) :
    (baseline.compareWith candidate).comparable =
      (candidate.compareWith baseline).comparable := by
  rw [Bool.eq_iff_iff, compareWith, compareWith, List.isEmpty_iff,
    List.isEmpty_iff, List.append_eq_nil_iff, List.append_eq_nil_iff,
    comparabilityGaps_comm, basketGaps_comm]

/-! ## Both comparisons of a pair -/

namespace Comparison

/-- The metric has one delta and no text. -/
def Matches (c : Comparison Exact) (key : String) : Prop :=
  c.metrics.countP (aboutKey key) = 1 ∧ c.unmatched.countP (isNote key) = 0

/-- The metric has one text and no delta. -/
def Leaves (c : Comparison Exact) (key : String) : Prop :=
  c.metrics.countP (aboutKey key) = 0 ∧ c.unmatched.countP (isNote key) = 1

/-- What holds between the two comparisons of a pair of runs. -/
structure Mirrors (c c' : Comparison Exact) (keys : List String) : Prop where
  comparable : c.comparable = c'.comparable
  metrics : List.Forall₂ MetricDelta.Mirrors c.metrics c'.metrics
  complete : ∀ key ∈ keys,
    c.Matches key ∧ c'.Matches key ∨ c.Leaves key ∧ c'.Leaves key

end Comparison

namespace RunRow

/-- The run measured numbers. -/
def IsReal (row : RunRow Exact) : Prop :=
  ∀ m ∈ row.openingMetrics, ∃ x, m.value = .fin x

/-- Whenever both runs measured something positive for a metric, their rows
store the same direction or the same value. -/
def AgreesWith (row other : RunRow Exact) : Prop :=
  ∀ m ∈ row.openingMetrics, ∀ m' ∈ other.openingMetrics,
    m.module = m'.module → m.metricKey = m'.metricKey →
    0.0 < m.value → 0.0 < m'.value →
    directionFromKey m.direction = directionFromKey m'.direction ∨
      m.value = m'.value

variable {row other : RunRow Exact}

theorem IsReal.allReal (h : row.IsReal) : AllReal row.metricsOf := by
  intro key metric hmetric
  obtain ⟨m, hm, -, rfl⟩ := getElem?_metricsOf.mp hmetric
  exact h m hm

theorem keyed_metricsOf (row : RunRow Exact) : Keyed row.metricsOf := by
  intro key metric hmetric
  obtain ⟨m, -, rfl, rfl⟩ := getElem?_metricsOf.mp hmetric
  exact ⟨m.module, rfl, rfl⟩

theorem oriented_metricsOf_iff :
    Oriented row.metricsOf other.metricsOf ↔ row.AgreesWith other := by
  constructor
  · intro h m hm m' hm' hmodule hkey hpos hpos'
    refine h m.scope m.toIndexed m'.toIndexed
      (getElem?_metricsOf.mpr ⟨m, hm, rfl, rfl⟩)
      (getElem?_metricsOf.mpr ⟨m', hm', ?_, rfl⟩) ⟨hpos, hpos'⟩
    rw [MetricRow.scope, MetricRow.scope, hmodule, hkey]
  · intro h key left right hleft hright hpos
    obtain ⟨m, hm, hscope, rfl⟩ := getElem?_metricsOf.mp hleft
    obtain ⟨m', hm', rfl, rfl⟩ := getElem?_metricsOf.mp hright
    obtain ⟨hmodule, hkey⟩ := scopedKey_inj hscope
    exact h m hm m' hm' hmodule hkey hpos.1 hpos.2

theorem complete_of_keys [Rfc3339] (hrow : row.IsReal) (hother : other.IsReal)
    {key : String}
    (h : (∃ left, row.metricsOf[key]? = some left) ∨
      ∃ right, other.metricsOf[key]? = some right) :
    (row.compareWith other).Matches key ∧ (other.compareWith row).Matches key ∨
      (row.compareWith other).Leaves key ∧
        (other.compareWith row).Leaves key := by
  have hdeltas := countP_deltas hrow.allReal hother.allReal
    row.keyed_metricsOf key
  have hdeltas' := countP_deltas hother.allReal hrow.allReal
    other.keyed_metricsOf key
  have htexts := countP_unmatchedTexts hrow.allReal hother.allReal key
  have htexts' := countP_unmatchedTexts hother.allReal hrow.allReal key
  by_cases hpaired : PairedAt row.metricsOf other.metricsOf key
  · exact .inl ⟨⟨hdeltas.1 hpaired, htexts.1 hpaired⟩,
      hdeltas'.1 hpaired.symm, htexts'.1 hpaired.symm⟩
  · have hpaired' : ¬ PairedAt other.metricsOf row.metricsOf key :=
      fun h => hpaired h.symm
    exact .inr ⟨⟨hdeltas.2 hpaired, htexts.2 hpaired h⟩,
      hdeltas'.2 hpaired', htexts'.2 hpaired' h.symm⟩

/-- The keys of the metrics that either run measured in its opening cycle. -/
def scopes (row other : RunRow Exact) : List String :=
  (row.openingMetrics ++ other.openingMetrics).map MetricRow.scope

theorem mirrors_iff [Rfc3339] (hrow : row.IsReal) (hother : other.IsReal) :
    (row.compareWith other).Mirrors (other.compareWith row)
        (row.scopes other) ↔
      row.AgreesWith other := by
  have hmetrics := deltas_mirror_iff hrow.allReal hother.allReal
    row.keyed_metricsOf other.keyed_metricsOf
  rw [← oriented_metricsOf_iff, ← hmetrics]
  constructor
  · intro h
    exact h.metrics
  · intro h
    refine ⟨row.comparable_comm other, h, ?_⟩
    intro key hkey
    refine complete_of_keys hrow hother ?_
    obtain ⟨m, hm, rfl⟩ := List.mem_map.mp hkey
    rcases List.mem_append.mp hm with hm | hm
    · exact .inl ⟨_, getElem?_metricsOf.mpr ⟨m, hm, rfl, rfl⟩⟩
    · exact .inr ⟨_, getElem?_metricsOf.mpr ⟨m, hm, rfl, rfl⟩⟩

end RunRow

namespace RunIndex

/-- Comparing two indexed runs both ways gives two comparisons of which each
mirrors the other. -/
def MirrorsAt [Rfc3339] (index : RunIndex Exact) (a b : RunId)
    (keys : List String) : Prop :=
  ∃ c c', index.compare a b = some c ∧ index.compare b a = some c' ∧
    c.Mirrors c' keys

theorem mirrorsAt_iff [Rfc3339] {index : RunIndex Exact} {a b : RunId}
    {row other : RunRow Exact} (ha : index.find? a = some row)
    (hb : index.find? b = some other) (keys : List String) :
    index.MirrorsAt a b keys ↔
      (row.compareWith other).Mirrors (other.compareWith row) keys := by
  have hcompare : index.compare a b = some (row.compareWith other) := by
    rw [compare, ha, hb]
    rfl
  have hcompare' : index.compare b a = some (other.compareWith row) := by
    rw [compare, ha, hb]
    rfl
  rw [MirrorsAt, hcompare, hcompare']
  constructor
  · rintro ⟨c, c', hc, hc', h⟩
    obtain rfl := Option.some.inj hc
    obtain rfl := Option.some.inj hc'
    exact h
  · intro h
    exact ⟨_, _, rfl, rfl, h⟩

/-- Comparing is antisymmetric and complete for exactly the pairs of runs whose
rows agree about the direction of what changed. -/
theorem compare_mirrors_iff [Rfc3339] (index : RunIndex Exact) {a b : RunId}
    {row other : RunRow Exact} (ha : index.find? a = some row)
    (hb : index.find? b = some other) (hrow : row.IsReal)
    (hother : other.IsReal) :
    index.MirrorsAt a b (row.scopes other) ↔ row.AgreesWith other :=
  (mirrorsAt_iff ha hb _).trans (RunRow.mirrors_iff hrow hother)

/-! ## A metric without an anchor -/

open scoped StandIns

noncomputable section

/-- A metric that the reference does not name. -/
def extraMetric (direction : Direction) (value : ℝ) : Metric Exact where
  key := "vendor.extra"
  label := "Vendor extra"
  unit := "ops/s"
  direction := direction
  value := .fin value
  summary :=
    { n := 1
      min := .fin value
      max := .fin value
      mean := .fin value
      median := .fin value
      stddev := .fin 0
      cv := none
      ci95 := none
      mad := none }
  samples := []
  outliers := []
  measuresDispersion := false
  tailQuantile := false

def extraResult (direction : Direction) (value : ℝ) : ModuleResult Exact where
  module := ⟨cpuMixed, "1.0.0"⟩
  status := .completed
  cycle := 0
  startedAt := 0
  finishedAt := 0
  durationMs := .fin 0
  metrics := [extraMetric direction value]
  warnings := []
  error := none
  context := ∅

def extraRow (direction : Direction) (value : ℝ) : MetricRow Exact :=
  MetricRow.ofMetric (extraResult direction value)
    (extraMetric direction value)

/-- The row of a run that measured nothing but the metric. -/
def extraRun (runId : RunId) (direction : Direction) (value : ℝ) :
    RunRow Exact where
  runId := runId
  profile := "quick"
  runState := "Completed"
  resultState := "local"
  startedAt := StandIns.epochText
  finishedAt := StandIns.epochText
  durationMs := 0
  totalScore := none
  totalIsStandard := true
  scoringModel := scoringModelVersion
  uncalibrated := true
  agentVersion := "0.1.0"
  buildTarget := "x86_64-linux"
  buildProfile := "release"
  environmentDigest := "sha256:0"
  bundleDigest := "sha256:0"
  modules := ["cpu.mixed@1.0.0"]
  stoppedBecause := none
  identity := (1, 1)
  metrics := .ofRows [extraRow direction value]
  categories := .empty

attribute [local instance] atLeastTwo_ten in
/-- Two runs whose bundles disagree about what is better. -/
def disagreeing : RunIndex Exact :=
  .ofRows [extraRun StandIns.runId .higherIsBetter 10,
    extraRun StandIns.otherRunId .lowerIsBetter 20]

end

theorem scopedKey_extra_notMem :
    scopedKey cpuMixed.asStr "vendor.extra" ∉
      (provisionalPoints (F := Exact)).map Prod.fst := by
  simp only [provisionalPoints, List.map_cons, List.map_nil]
  decide

theorem anchorDirection_extra (direction : Direction) :
    anchorDirection (.current : ScoringModel Exact) cpuMixed.asStr
      "vendor.extra" direction = direction := by
  have hget : (ScoringModel.current : ScoringModel Exact).reference.get
      cpuMixed.asStr "vendor.extra" = none :=
    BTreeMap.getElem?_ofList_eq_none scopedKey_extra_notMem
  rw [anchorDirection, hget]
  rfl

theorem direction_extraRow (direction : Direction) (value : ℝ) :
    directionFromKey (extraRow direction value).direction = direction := by
  simp only [extraRow, MetricRow.ofMetric, extraResult, extraMetric]
  rw [directionFromKey_directionKey, anchorDirection_extra]

theorem openingMetrics_extraRun (runId : RunId) (direction : Direction)
    (value : ℝ) :
    (extraRun runId direction value).openingMetrics =
      [extraRow direction value] :=
  rfl

theorem isReal_extraRun (runId : RunId) (direction : Direction) (value : ℝ) :
    (extraRun runId direction value).IsReal := by
  intro m hm
  rw [openingMetrics_extraRun] at hm
  obtain rfl := List.mem_singleton.mp hm
  exact ⟨value, rfl⟩

theorem agreesWith_extraRun {a b : RunId} {direction direction' : Direction}
    {value value' : ℝ} (hvalue : 0 < value) (hvalue' : 0 < value')
    (h : (extraRun a direction value).AgreesWith
      (extraRun b direction' value')) :
    direction = direction' ∨ value = value' := by
  have hpos : ∀ {x : ℝ}, 0 < x → (0.0 : Exact) < .fin x := by
    intro x hx
    rw [Exact.zero_eq, Exact.fin_lt_fin]
    exact hx
  have hcase := h (extraRow direction value) List.mem_cons_self
    (extraRow direction' value') List.mem_cons_self rfl rfl (hpos hvalue)
    (hpos hvalue')
  rw [direction_extraRow, direction_extraRow] at hcase
  exact hcase.imp_right fun hvalues => Exact.fin.inj hvalues

theorem find?_disagreeing :
    disagreeing.find? StandIns.runId =
        some (extraRun StandIns.runId .higherIsBetter 10) ∧
      disagreeing.find? StandIns.otherRunId =
        some (extraRun StandIns.otherRunId .lowerIsBetter 20) := by
  have hne : StandIns.runId ≠ StandIns.otherRunId := by decide
  constructor
  · exact (Table.find?_insertOrReplace_of_ne _ hne).trans
      (Table.find?_insertOrReplace_self _
        (extraRun StandIns.runId .higherIsBetter 10))
  · exact Table.find?_insertOrReplace_self _
      (extraRun StandIns.otherRunId .lowerIsBetter 20)

/-- Compared with itself a run agrees about every direction. -/
theorem compare_mirrors_iff_disagreeing :
    disagreeing.MirrorsAt StandIns.runId StandIns.runId
        ((extraRun StandIns.runId .higherIsBetter 10).scopes
          (extraRun StandIns.runId .higherIsBetter 10)) ↔
      (extraRun StandIns.runId .higherIsBetter 10).AgreesWith
        (extraRun StandIns.runId .higherIsBetter 10) :=
  compare_mirrors_iff disagreeing find?_disagreeing.1 find?_disagreeing.1
    (isReal_extraRun _ _ _) (isReal_extraRun _ _ _)

theorem not_mirrorsAt_disagreeing :
    disagreeing.find? StandIns.runId =
        some (extraRun StandIns.runId .higherIsBetter 10) ∧
      disagreeing.find? StandIns.otherRunId =
        some (extraRun StandIns.otherRunId .lowerIsBetter 20) ∧
      ¬ disagreeing.MirrorsAt StandIns.runId StandIns.otherRunId
        ((extraRun StandIns.runId .higherIsBetter 10).scopes
          (extraRun StandIns.otherRunId .lowerIsBetter 20)) := by
  obtain ⟨hfirst, hsecond⟩ := find?_disagreeing
  refine ⟨hfirst, hsecond, ?_⟩
  rw [mirrorsAt_iff hfirst hsecond,
    RunRow.mirrors_iff (isReal_extraRun _ _ _) (isReal_extraRun _ _ _)]
  intro h
  rcases agreesWith_extraRun (by norm_num) (by norm_num) h with h | h
  · exact absurd h (by decide)
  · norm_num at h

end RunIndex

end Darcbench
