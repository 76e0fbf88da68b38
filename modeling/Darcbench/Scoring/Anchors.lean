import Darcbench.Protocol.Exact
import Darcbench.Scoring.Contributions

/-!
# The anchors of the implemented models

No anchor of the current model hides another, and every anchor of the models
that this build implements is a positive number with a positive weight.
-/

namespace Darcbench

/-- A positive anchor with a positive weight. -/
def ReferencePoint.IsPositive (reference : ReferencePoint Exact) : Prop :=
  ∃ value weight, 0 < value ∧ 0 < weight ∧
    reference.value = .fin value ∧ reference.weight = .fin weight

/-- Every metric with an anchor has a positive one. -/
def ScoringModel.HasPositiveAnchors (model : ScoringModel Exact) : Prop :=
  ∀ moduleId key reference,
    model.reference.get moduleId key = some reference → reference.IsPositive

section Keys

variable {F : Type} [F64 F]

set_option maxRecDepth 10000 in
theorem provisionalPoints_keys_nodup :
    ((provisionalPoints (F := F)).map Prod.fst).Nodup := by
  simp only [provisionalPoints, List.map_cons, List.map_nil]
  decide

/-- The current model reads its anchors from the list. -/
theorem get_provisionalReference
    {moduleId key : String} {reference : ReferencePoint F}
    (h : (scopedKey moduleId key, reference) ∈ provisionalPoints) :
    (provisionalReference (F := F)).get moduleId key = some reference :=
  BTreeMap.getElem?_ofList_of_mem provisionalPoints_keys_nodup h

end Keys

theorem ofScientific_pos {m : ℕ} (s : Bool) (e : ℕ) (hm : 0 < m) :
    (0 : ℝ) < OfScientific.ofScientific m s e := by
  have hten : 0 < 10 ^ e := Nat.pow_pos (by norm_num)
  rw [NNRatCast.ofScientific_eq_ite]
  cases s with
  | true =>
      rw [if_pos rfl, NNRat.divNat_eq_div]
      push_cast
      positivity
  | false =>
      rw [if_neg Bool.false_ne_true]
      push_cast
      positivity

/-- An anchor written with positive literals. -/
theorem isPositive_of_literals
    {reference : ReferencePoint Exact} {m m' : ℕ} {s s' : Bool} {e e' : ℕ}
    (hvalue : reference.value = OfScientific.ofScientific m s e)
    (hweight : reference.weight = OfScientific.ofScientific m' s' e')
    (hm : 0 < m) (hm' : 0 < m') :
    reference.IsPositive :=
  ⟨_, _, ofScientific_pos s e hm, ofScientific_pos s' e' hm', hvalue, hweight⟩

theorem isPositive_of_mem_provisionalPoints :
    ∀ entry ∈ (provisionalPoints : List (String × ReferencePoint Exact)),
      entry.2.IsPositive := by
  simp only [provisionalPoints, List.forall_mem_cons]
  and_intros <;>
    first
    | exact isPositive_of_literals rfl rfl (by decide) (by decide)
    | exact fun _ h => absurd h (by simp)

theorem isPositive_of_mem_networkLatencyPoints :
    ∀ entry ∈ (networkLatencyPoints : List (String × ReferencePoint Exact)),
      entry.2.IsPositive := by
  simp only [networkLatencyPoints, List.forall_mem_cons]
  and_intros <;>
    first
    | exact isPositive_of_literals rfl rfl (by decide) (by decide)
    | exact fun _ h => absurd h (by simp)

/-- The current model has positive anchors. -/
theorem hasPositiveAnchors_current :
    (ScoringModel.current : ScoringModel Exact).HasPositiveAnchors := by
  intro moduleId key reference h
  exact isPositive_of_mem_provisionalPoints _
    (BTreeMap.mem_of_getElem?_ofList h)

/-- The superseded model has positive anchors. -/
theorem hasPositiveAnchors_dbs010Dev :
    (ScoringModel.dbs010Dev : ScoringModel Exact).HasPositiveAnchors := by
  intro moduleId key reference h
  rcases BTreeMap.mem_of_getElem?_insertMany h with h | h
  · exact isPositive_of_mem_networkLatencyPoints _ h
  · exact hasPositiveAnchors_current moduleId key reference h

theorem get_current_cpuMixed {F : Type} [F64 F] :
    (ScoringModel.current (F := F)).reference.get cpuMixed.asStr
      "crypto_sha256.single" =
        some (point 1900.0 1.0 .compute (some .singleCore)) :=
  get_provisionalReference List.mem_cons_self

end Darcbench
