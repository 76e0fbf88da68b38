import Darcbench.Protocol.Events
import Darcbench.Scoring.FiniteCard
import Darcbench.Scoring.WeakLink

/-!
# The balance panel

The browser is sent the scores of the categories and of the facets in one list,
and the total.  It works out the balance and the cap of the total again, and
finds what the card of the run says.
-/

namespace Darcbench

section Definitions

variable {F : Type} [F64 F]

/-- How a category goes into the event of a card. -/
def CategoryOutcome.toScore (c : CategoryOutcome F) : CategoryScore F where
  key := c.key.key
  label := c.label
  score := c.score
  weight := c.weight

/-- A facet has no weight in the total. -/
def facetToScore (key : String) (score : F) : CategoryScore F where
  key := key
  label := key.map fun c => if c = '_' then ' ' else c
  score := score
  weight := 0.0

def scoreEvent (card : ScoreCard F) (provisional : Bool) : ScoreEvent F where
  scoringModel := card.scoringModel
  provisional := provisional
  total := card.total
  categories := card.categories.map CategoryOutcome.toScore ++
    card.facets.toList.map fun entry => facetToScore entry.1 entry.2
  uncalibrated := card.uncalibrated

/-- The total that the browser reads.  In JSON a number that is not finite is
`null`. -/
def ScoreEvent.receivedTotal (event : ScoreEvent F) : Option F :=
  event.total.filter F64.isFinite

namespace Radar

/-- The factor of the cap, which the event does not carry. -/
def weakLinkCapFactor : F := 4.0

/-- The geometric mean, with the refusals of the scoring model. -/
def geometricMeanOf (values : List F) : Option F :=
  if values.length = 0 ∨
      values.any (fun value => !F64.isFinite value || decide (value ≤ 0.0)) then
    none
  else
    let logSum := values.foldl (fun accumulator value =>
      accumulator + F64.ln value) 0.0
    some (F64.exp (logSum / F64.ofNat values.length))

structure CategoryBalance (F : Type) where
  scoredCategories : List (CategoryScore F)
  weakest : Option (CategoryScore F)
  strongest : Option (CategoryScore F)
  balanceIndex : Option F
  weakLinkCap : Option F
  totalIsAtTheWeakLinkCap : Bool

/-- A category replaces the one that was best so far if it is before it. -/
def keepForemost (before : F → F → Bool) (best : Option (CategoryScore F))
    (category : CategoryScore F) : Option (CategoryScore F) :=
  match best with
  | none => some category
  | some best =>
      some (if before category.score best.score then category else best)

/-- The category that comes first by a comparison of scores. -/
def foremost (before : F → F → Bool) (categories : List (CategoryScore F)) :
    Option (CategoryScore F) :=
  categories.foldl (keepForemost before) none

/-- The weakest category divided by the mean of all of them. -/
def balanceIndexOf (scoredCategories : List (CategoryScore F)) : Option F := do
  let weakest ← foremost (fun a b => decide (a < b)) scoredCategories
  let geometricMean ← geometricMeanOf (scoredCategories.map (·.score))
  if 0.0 < geometricMean then some (weakest.score / geometricMean) else none

/-- Whether a total is on the cap, up to rounding. -/
def isAtTheWeakLinkCap (total weakLinkCap : Option F) : Bool :=
  match total, weakLinkCap with
  | some total, some cap =>
      decide (F64.abs (total - cap) ≤ F64.abs cap * 1e-9)
  | _, _ => false

/-- Recomputes the balance figures from the category scores of an event. -/
def deriveCategoryBalance (categories : List (CategoryScore F))
    (total : Option F) : CategoryBalance F :=
  let scoredCategories := categories.filter fun c => decide (0.0 < c.weight)
  let weakest := foremost (fun a b => decide (a < b)) scoredCategories
  let weakLinkCap := weakest.map fun c => c.score * weakLinkCapFactor
  { scoredCategories := scoredCategories
    weakest := weakest
    strongest := foremost (fun a b => decide (b < a)) scoredCategories
    balanceIndex := balanceIndexOf scoredCategories
    weakLinkCap := weakLinkCap
    totalIsAtTheWeakLinkCap := isAtTheWeakLinkCap total weakLinkCap }

/-- Both programs compute the same mean. -/
theorem geometricMeanOf_eq (values : List F) :
    geometricMeanOf values = geometricMean values := by
  have hsum : values.foldl (fun accumulator value =>
      accumulator + F64.ln value) 0.0 = F64.sum (values.map F64.ln) := by
    rw [F64.sum, List.foldl_map]
  rw [geometricMeanOf, geometricMean, hsum]
  cases values with
  | nil => rfl
  | cons value rest => simp

end Radar

end Definitions

/-! ## The weakest of the scored categories -/

namespace Exact

theorem le_trans {a b c : Exact} (hab : a ≤ b) (hbc : b ≤ c) : a ≤ c := by
  cases b with
  | fin y =>
      cases a with
      | fin x =>
          cases c with
          | fin z => exact LE.le.trans (show x ≤ y from hab) hbc
          | _ => exact hbc
      | _ => cases c <;> trivial
  | _ => cases a <;> cases c <;> trivial

theorem IsFin.le_of_lt {a b : Exact} (ha : a.IsFin) (hb : b.IsFin)
    (h : a < b) : a ≤ b := by
  obtain ⟨x, rfl⟩ := ha
  obtain ⟨y, rfl⟩ := hb
  exact ((fin_lt_fin x y).mp h).le

theorem IsFin.le_of_not_lt {a b : Exact} (ha : a.IsFin) (hb : b.IsFin)
    (h : ¬ a < b) : b ≤ a := by
  obtain ⟨x, rfl⟩ := ha
  obtain ⟨y, rfl⟩ := hb
  exact not_lt.mp fun hlt => h ((fin_lt_fin x y).mpr hlt)

theorem IsFin.le_self {a : Exact} (ha : a.IsFin) : a ≤ a := by
  obtain ⟨x, rfl⟩ := ha
  exact le_refl x

end Exact

namespace Radar

/-- A category of the smallest score. -/
structure IsWeakestOf (w : CategoryScore Exact)
    (categories : List (CategoryScore Exact)) : Prop where
  mem : w ∈ categories
  le : ∀ c ∈ categories, w.score ≤ c.score

/-- The fold over categories with real scores keeps a smallest one. -/
theorem foldl_weakest {categories : List (CategoryScore Exact)}
    (hfin : ∀ c ∈ categories, c.score.IsFin) {best : CategoryScore Exact}
    (hbest : best.score.IsFin) :
    ∃ w, IsWeakestOf w (best :: categories) ∧
      categories.foldl (keepForemost fun a b => decide (a < b)) (some best) =
        some w := by
  induction categories generalizing best with
  | nil =>
      refine ⟨best, ⟨List.mem_cons_self, ?_⟩, rfl⟩
      intro c hc
      obtain rfl := List.mem_singleton.mp hc
      exact hbest.le_self
  | cons category rest ih =>
      have hcategory := hfin category List.mem_cons_self
      have hrest : ∀ c ∈ rest, c.score.IsFin :=
        fun c hc => hfin c (List.mem_cons_of_mem _ hc)
      by_cases hlt : category.score < best.score
      · obtain ⟨w, hw, hfold⟩ := ih hrest hcategory
        have hle := hw.le category List.mem_cons_self
        refine ⟨w, ⟨List.mem_cons_of_mem _ hw.mem, ?_⟩, ?_⟩
        · intro c hc
          rcases List.mem_cons.mp hc with rfl | hc
          · exact Exact.le_trans hle (hcategory.le_of_lt hbest hlt)
          · exact hw.le c hc
        · rw [List.foldl_cons, keepForemost, decide_eq_true hlt, if_pos rfl]
          exact hfold
      · obtain ⟨w, hw, hfold⟩ := ih hrest hbest
        have hle := hw.le best List.mem_cons_self
        refine ⟨w, ⟨?_, ?_⟩, ?_⟩
        · rcases List.mem_cons.mp hw.mem with rfl | hmem
          · exact List.mem_cons_self
          · exact List.mem_cons_of_mem _ (List.mem_cons_of_mem _ hmem)
        · intro c hc
          rcases List.mem_cons.mp hc with rfl | hc
          · exact hle
          rcases List.mem_cons.mp hc with rfl | hc
          · exact Exact.le_trans hle (hcategory.le_of_not_lt hbest hlt)
          · exact hw.le c (List.mem_cons_of_mem _ hc)
        · rw [List.foldl_cons, keepForemost, decide_eq_false hlt,
            if_neg Bool.false_ne_true]
          exact hfold

theorem exists_foremost {categories : List (CategoryScore Exact)}
    (hfin : ∀ c ∈ categories, c.score.IsFin) (hne : categories ≠ []) :
    ∃ w, IsWeakestOf w categories ∧
      foremost (fun a b => decide (a < b)) categories = some w := by
  cases categories with
  | nil => exact absurd rfl hne
  | cons best rest =>
      exact foldl_weakest (fun c hc => hfin c (List.mem_cons_of_mem _ hc))
        (hfin best List.mem_cons_self)

end Radar

/-! ## The card on the wire -/

section Card

variable {model : ScoringModel Exact} {profile : Profile}
  {modules : List (ModuleResult Exact)} {items : List Weighted}

theorem isFin_facets (model : ScoringModel Exact) (profile : Profile)
    (modules : List (ModuleResult Exact)) :
    ∀ entry ∈ (model.scoreRun profile modules).facets.toList,
      entry.2.IsFin := by
  rintro ⟨name, score⟩ hentry
  have hscore := BTreeMap.mem_toList_iff.mp hentry
  rw [model.facets_scoreRun] at hscore
  obtain ⟨facet, hfacet⟩ := exists_facetScore?_eq_some hscore
  obtain ⟨gm, hgm, rfl⟩ := Option.map_eq_some_iff.mp hfacet
  exact (isFin_of_weightedGeometricMean hgm).mul Exact.isFin_referenceAnchor

/-- Every score of the event is a number. -/
theorem isFin_scoreEvent (model : ScoringModel Exact) (profile : Profile)
    (modules : List (ModuleResult Exact)) (provisional : Bool) :
    ∀ c ∈ (scoreEvent (model.scoreRun profile modules) provisional).categories,
      c.score.IsFin := by
  intro c hc
  obtain ⟨items, hitems⟩ := exists_hasScores_scoreRun model profile modules
  rcases List.mem_append.mp hc with hc | hc
  · obtain ⟨category, hcategory, rfl⟩ := List.mem_map.mp hc
    obtain ⟨item, _, hscore⟩ := hitems.exists_item hcategory
    exact ⟨_, hscore⟩
  · obtain ⟨entry, hentry, rfl⟩ := List.mem_map.mp hc
    exact isFin_facets model profile modules entry hentry

/-- The categories are told from the facets by their weight. -/
theorem filter_scoreEvent
    (h : (model.scoreRun profile modules).HasScores items)
    (provisional : Bool) :
    (scoreEvent (model.scoreRun profile modules)
        provisional).categories.filter (fun c => decide (0.0 < c.weight)) =
      (model.scoreRun profile modules).categories.map
        CategoryOutcome.toScore := by
  rw [scoreEvent, List.filter_append, List.filter_eq_self.mpr ?_,
    List.filter_eq_nil_iff.mpr ?_, List.append_nil]
  · intro c hc
    obtain ⟨entry, -, rfl⟩ := List.mem_map.mp hc
    have hlt : ¬ (0.0 : Exact) < 0.0 := by
      rw [Exact.zero_eq, Exact.fin_lt_fin]
      exact lt_irrefl _
    exact fun hc => hlt (of_decide_eq_true hc)
  · intro c hc
    obtain ⟨category, hcategory, rfl⟩ := List.mem_map.mp hc
    have hmem : (category.score, category.weight) ∈ items.map Weighted.pair :=
      h ▸ List.mem_map.mpr ⟨category, hcategory, rfl⟩
    obtain ⟨item, _, hpair⟩ := List.mem_map.mp hmem
    have hweight : category.weight = .fin item.weight :=
      (congrArg Prod.snd hpair).symm
    refine decide_eq_true ?_
    show (0.0 : Exact) < category.weight
    rw [hweight, Exact.zero_eq, Exact.fin_lt_fin]
    exact item.weight_pos

/-- The panel says what the card of a run says. -/
structure Radar.CategoryBalance.Agrees (balance : CategoryBalance Exact)
    (card : ScoreCard Exact) : Prop where
  scoredCategories : balance.scoredCategories =
    card.categories.map CategoryOutcome.toScore
  balanceIndex : balance.balanceIndex = card.balanceIndex
  weakest_eq_none : balance.weakest = none ↔ card.categories = []
  weakest : ∀ w, balance.weakest = some w →
    IsWeakestOf w (card.categories.map CategoryOutcome.toScore)
  weakLinkCap : balance.weakLinkCap =
    balance.weakest.map fun w => .fin 4 * w.score
  /-- A cap that moved the total shows. -/
  atTheCap : card.weakLinkApplied = true →
    balance.totalIsAtTheWeakLinkCap = true
  /-- A total below the cap does not look capped. -/
  belowTheCap : ∀ u cap, card.uncappedTotal = some u →
    balance.weakLinkCap = some cap → u < (1.0 - 1e-9) * cap →
      balance.totalIsAtTheWeakLinkCap = false

theorem isFin_toScore (h : (model.scoreRun profile modules).HasScores items) :
    ∀ c ∈ (model.scoreRun profile modules).categories.map
      CategoryOutcome.toScore, c.score.IsFin := by
  intro c hc
  obtain ⟨category, hcategory, rfl⟩ := List.mem_map.mp hc
  obtain ⟨item, _, hscore⟩ := h.exists_item hcategory
  exact ⟨_, hscore⟩

/-- The weakest category has the smallest number as its score. -/
theorem score_eq_of_isWeakestOf
    (h : (model.scoreRun profile modules).HasScores items)
    {w : CategoryScore Exact}
    (hw : Radar.IsWeakestOf w
      ((model.scoreRun profile modules).categories.map
        CategoryOutcome.toScore))
    {low : ℝ} (hlow : IsWeakest items low) : w.score = .fin low := by
  obtain ⟨category, hcategory, rfl⟩ := List.mem_map.mp hw.mem
  obtain ⟨item, hitem, hscore⟩ := h.exists_item hcategory
  obtain ⟨weak, hweak, hvalue⟩ := hlow.mem
  obtain ⟨category', hcategory', hscore'⟩ := h.exists_category hweak
  have hle := hw.le _ (List.mem_map_of_mem hcategory')
  have hle' : category.score ≤ category'.score := hle
  rw [hscore, hscore', hvalue, Exact.fin_le_fin] at hle'
  show category.score = _
  rw [hscore, le_antisymm hle' (hlow.le item hitem)]

/-- The browser divides the same numbers. -/
theorem balanceIndexOf_eq
    (h : (model.scoreRun profile modules).HasScores items) :
    Radar.balanceIndexOf ((model.scoreRun profile modules).categories.map
        CategoryOutcome.toScore) =
      (model.scoreRun profile modules).balanceIndex := by
  by_cases hne : items = []
  · subst hne
    rw [ScoringModel.balanceIndex_scoreRun,
      h.categories_eq_nil_iff.mpr rfl]
    rfl
  · obtain ⟨low, hlow, hweakest⟩ := exists_isWeakest hne
    have hcategories : (model.scoreRun profile modules).categories.map
        CategoryOutcome.toScore ≠ [] := by
      intro hnil
      exact hne (h.categories_eq_nil_iff.mp (List.map_eq_nil_iff.mp hnil))
    obtain ⟨w, hw, hforemost⟩ :=
      Radar.exists_foremost (isFin_toScore h) hcategories
    have hscores : ((model.scoreRun profile modules).categories.map
        CategoryOutcome.toScore).map (·.score) =
          (items.map (·.value)).map Exact.fin := by
      rw [← h.map_score, List.map_map]
      rfl
    have hgm : geometricMean ((items.map (·.value)).map Exact.fin) =
        some (.fin (Weighted.mean (items.map Weighted.unit))) := by
      rw [List.map_map]
      exact geometricMean_map_fin hne
    have hpos := Weighted.mean_pos (items.map Weighted.unit)
    rw [ScoringModel.balanceIndex_eq h hne hweakest, Radar.balanceIndexOf,
      hforemost, hscores, Radar.geometricMeanOf_eq, hgm]
    simp only [Option.bind_eq_bind, Option.bind_some]
    rw [Exact.zero_eq, if_pos ((Exact.fin_lt_fin _ _).mpr hpos),
      score_eq_of_isWeakestOf h hw hlow, Exact.fin_div_fin _ hpos.ne']

end Card

/-! ## The cap -/

theorem isAtTheWeakLinkCap_fin (t cap : ℝ) :
    Radar.isAtTheWeakLinkCap (some (Exact.fin t)) (some (.fin cap)) = true ↔
      |t - cap| ≤ |cap| * 1e-9 := by
  have htolerance : (1e-9 : Exact) = .fin 1e-9 := Exact.ofScientific_eq _ _ _
  rw [Radar.isAtTheWeakLinkCap, htolerance, decide_eq_true_iff]
  exact Iff.rfl

theorem not_lt_sub_tolerance (a : Exact) : ¬ a < a - 1e-9 := by
  have htolerance : (1e-9 : Exact) = .fin 1e-9 := Exact.ofScientific_eq _ _ _
  rw [htolerance]
  cases a with
  | fin x =>
      rw [Exact.fin_sub_fin, Exact.fin_lt_fin, not_lt]
      norm_num
  | _ => exact fun h => h

/-- A total that the cap has moved is on the cap. -/
theorem min_eq_of_lt {u : Exact} {cap : ℝ}
    (h : F64.min u (.fin cap) < u - 1e-9) :
    F64.min u (.fin cap) = .fin cap := by
  rw [F64.min] at h ⊢
  by_cases hnan : F64.isNan u = true
  · rw [if_pos hnan]
  · rw [if_neg hnan] at h ⊢
    by_cases hlt : Exact.fin cap < u
    · rw [if_pos hlt]
    · rw [if_neg hlt] at h
      exact absurd h (not_lt_sub_tolerance u)

/-- A total well below the cap is not taken for it. -/
theorem isAtTheWeakLinkCap_eq_false {u : Exact} {cap : ℝ} (hpos : 0 < cap)
    (h : u < (1.0 - 1e-9) * .fin cap) :
    Radar.isAtTheWeakLinkCap
        ((some (F64.min u (.fin cap))).filter F64.isFinite)
        (some (.fin cap)) = false := by
  have htolerance : (1e-9 : Exact) = .fin 1e-9 := Exact.ofScientific_eq _ _ _
  rw [Exact.one_eq, htolerance, Exact.fin_sub_fin, Exact.fin_mul_fin] at h
  cases u with
  | fin x =>
      rw [Exact.fin_lt_fin] at h
      have hlt : x < cap := by nlinarith
      rw [Exact.min_fin, min_eq_left hlt.le]
      refine Bool.eq_false_iff.mpr fun hcap => ?_
      have habs := (isAtTheWeakLinkCap_fin x cap).mp hcap
      rw [abs_of_neg (by linarith), abs_of_pos hpos] at habs
      nlinarith
  | negInf =>
      rw [Exact.min_negInf_fin]
      rfl
  | inf => exact absurd h fun h => h
  | nan => exact absurd h fun h => h

/-! ## Agreement -/

/-- A card without categories has no balance. -/
theorem agrees_of_nil {card : ScoreCard Exact}
    {categories : List (CategoryScore Exact)} {total : Option Exact}
    (hfilter : categories.filter (fun c => decide (0.0 < c.weight)) =
      card.categories.map CategoryOutcome.toScore)
    (hnil : card.categories = []) (hbalance : card.balanceIndex = none)
    (huncapped : card.uncappedTotal = none)
    (happlied : card.weakLinkApplied = false) :
    (Radar.deriveCategoryBalance categories total).Agrees card := by
  rw [Radar.deriveCategoryBalance, hfilter, hnil]
  constructor
  · rw [hnil]
  · rw [hbalance]
    rfl
  · exact ⟨fun _ => hnil, fun _ => rfl⟩
  · intro w hw
    exact absurd hw (by simp [Radar.foremost])
  · rfl
  · intro h
    rw [happlied] at h
    exact absurd h Bool.false_ne_true
  · intro u cap hu
    rw [huncapped] at hu
    exact absurd hu (by simp)

/-- The total of a card is the smaller of the uncapped total and the cap. -/
theorem exists_total_eq_min {model : ScoringModel Exact}
    (hfactor : model.weakLinkCapFactor = .fin 4) {profile : Profile}
    {modules : List (ModuleResult Exact)} {items : List Weighted}
    (h : (model.scoreRun profile modules).HasScores items) (hne : items ≠ [])
    {low : ℝ}
    (hweakest : weakest ((model.scoreRun profile modules).categories.map
      (·.score)) = some (.fin low)) :
    ∃ u, (model.scoreRun profile modules).uncappedTotal = some u ∧
      (model.scoreRun profile modules).total =
        some (F64.min u (.fin (low * 4))) := by
  have hpos : (0.0 : Exact) < .fin 4 := by
    rw [Exact.zero_eq, Exact.fin_lt_fin]
    norm_num
  have huncapped := ScoringModel.uncappedTotal_eq h hne
  refine ⟨_, huncapped, ?_⟩
  rw [ScoringModel.total_scoreRun, huncapped, Option.map_some,
    applyWeakLinkCap, hweakest, hfactor]
  dsimp only
  rw [if_pos hpos, Exact.fin_mul_fin]

/-- The browser finds in the event of a card what the card says. -/
theorem deriveCategoryBalance_agrees {model : ScoringModel Exact}
    (hfactor : model.weakLinkCapFactor = .fin 4) (profile : Profile)
    (modules : List (ModuleResult Exact)) (provisional : Bool) :
    (∀ c ∈ (scoreEvent (model.scoreRun profile modules)
      provisional).categories, c.score.IsFin) ∧
    (Radar.deriveCategoryBalance
      (scoreEvent (model.scoreRun profile modules) provisional).categories
      (scoreEvent (model.scoreRun profile modules)
        provisional).receivedTotal).Agrees
          (model.scoreRun profile modules) := by
  refine ⟨isFin_scoreEvent model profile modules provisional, ?_⟩
  obtain ⟨items, hitems⟩ := exists_hasScores_scoreRun model profile modules
  have hfilter := filter_scoreEvent hitems provisional
  by_cases hne : items = []
  · subst hne
    have hnil := hitems.categories_eq_nil_iff.mpr rfl
    have huncapped := ScoringModel.uncappedTotal_eq_none hitems
    refine agrees_of_nil hfilter hnil ?_ huncapped ?_
    · rw [ScoringModel.balanceIndex_scoreRun, hnil]
      rfl
    · show weakLinkAppliedOf (model.scoreRun profile modules).uncappedTotal _ =
        false
      rw [huncapped]
      rfl
  · obtain ⟨low, hlow, hweakest⟩ := exists_isWeakest hne
    rw [← hitems.map_score] at hweakest
    have hcategories : (model.scoreRun profile modules).categories.map
        CategoryOutcome.toScore ≠ [] := by
      intro hnil
      exact hne (hitems.categories_eq_nil_iff.mp (List.map_eq_nil_iff.mp hnil))
    obtain ⟨w, hw, hforemost⟩ :=
      Radar.exists_foremost (isFin_toScore hitems) hcategories
    have hscore := score_eq_of_isWeakestOf hitems hw hlow
    have hcapPos : 0 < low * 4 := mul_pos hlow.pos (by norm_num)
    have hfour : (4.0 : Exact) = .fin 4 := by
      rw [Exact.ofScientific_eq]
      norm_num
    have hcap : w.score * Radar.weakLinkCapFactor = .fin (low * 4) := by
      rw [hscore, Radar.weakLinkCapFactor, hfour, Exact.fin_mul_fin]
    obtain ⟨u, huncapped, htotal⟩ :=
      exists_total_eq_min hfactor hitems hne hweakest
    rw [Radar.deriveCategoryBalance, hfilter, hforemost,
      ScoreEvent.receivedTotal]
    simp only [Option.map_some, hcap]
    constructor
    · rfl
    · exact balanceIndexOf_eq hitems
    · refine ⟨fun h => absurd h (by simp), fun h => ?_⟩
      exact absurd (by rw [h, List.map_nil]) hcategories
    · intro w' hw'
      obtain rfl := Option.some.inj hw'
      exact hw
    · show _ = some (Exact.fin 4 * w.score)
      rw [hscore, Exact.fin_mul_fin, mul_comm]
    · intro happlied
      have hlt : F64.min u (.fin (low * 4)) < u - 1e-9 := by
        have h : weakLinkAppliedOf
            (model.scoreRun profile modules).uncappedTotal
            (model.scoreRun profile modules).total = true := happlied
        rw [huncapped, htotal] at h
        exact of_decide_eq_true h
      show Radar.isAtTheWeakLinkCap
        ((model.scoreRun profile modules).total.filter F64.isFinite) _ = true
      rw [htotal, min_eq_of_lt hlt]
      refine (isAtTheWeakLinkCap_fin _ _).mpr ?_
      rw [sub_self, abs_zero]
      positivity
    · intro u' cap hu hcap' hlt
      obtain rfl := Option.some.inj (huncapped.symm.trans hu)
      obtain rfl := Option.some.inj hcap'
      show Radar.isAtTheWeakLinkCap
        ((model.scoreRun profile modules).total.filter F64.isFinite) _ = false
      rw [htotal]
      exact isAtTheWeakLinkCap_eq_false hcapPos hlt

/-- The event of a run that measured one metric. -/
theorem deriveCategoryBalance_agrees_hashRun :
    (∀ c ∈ (scoreEvent (ScoringModel.current.scoreRun .standard
      (hashRun 1900 none)) false).categories, c.score.IsFin) ∧
    (Radar.deriveCategoryBalance
      (scoreEvent (ScoringModel.current.scoreRun .standard
        (hashRun 1900 none)) false).categories
      (scoreEvent (ScoringModel.current.scoreRun .standard
        (hashRun 1900 none)) false).receivedTotal).Agrees
          (ScoringModel.current.scoreRun .standard (hashRun 1900 none)) := by
  have hfactor : (4.0 : Exact) = .fin 4 := by
    rw [Exact.ofScientific_eq]
    norm_num
  exact deriveCategoryBalance_agrees hfactor .standard (hashRun 1900 none) false

end Darcbench
