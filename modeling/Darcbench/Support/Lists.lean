import Mathlib.Algebra.GroupWithZero.Nat
import Mathlib.Algebra.Order.BigOperators.Group.List
import Mathlib.Algebra.Order.Group.Nat
import Mathlib.Data.List.Forall2
import Mathlib.Data.List.Nodup

/-!
# Lists side by side

Facts about two lists whose elements are related in pairs, and about the
lookup of keys in a list of entries.
-/

namespace Darcbench

/-! ## Related elements -/

/-- Related options are present together. -/
theorem isSome_eq_of_rel
    {α β : Type} {R : α → β → Prop} {a : Option α} {b : Option β}
    (h : Option.Rel R a b) :
    a.isSome = b.isSome := by
  cases h <;> rfl

/-- In related lists every member is related to a member of the other list. -/
theorem exists_rel_of_forall₂
    {α β : Type} {R : α → β → Prop} {as : List α} {bs : List β} {a : α}
    (h : List.Forall₂ R as bs) (ha : a ∈ as) :
    ∃ b ∈ bs, R a b := by
  induction h with
  | nil => simp at ha
  | cons hab _ ih =>
      rcases List.mem_cons.mp ha with rfl | ha
      · exact ⟨_, List.mem_cons_self, hab⟩
      · obtain ⟨b, hb, hrel⟩ := ih ha
        exact ⟨b, List.mem_cons_of_mem _ hb, hrel⟩

theorem map_eq_of_forall₂
    {α : Type} {f : α → α} {as bs : List α}
    (h : List.Forall₂ (fun a b => b = f a) as bs) :
    bs = as.map f := by
  induction h with
  | nil => rfl
  | cons hab _ ih => rw [List.map_cons, hab, ih]

/-- Two lists ordered by keys stand side by side as soon as every element has a
related one with the same key in the other list. -/
theorem forall₂_of_sorted_keys
    {α β κ : Type} [LinearOrder κ] {R : α → β → Prop} {f : α → κ} {g : β → κ}
    {as : List α} {bs : List β} (has : (as.map f).Pairwise (· < ·))
    (hbs : (bs.map g).Pairwise (· < ·))
    (hleft : ∀ a ∈ as, ∃ b ∈ bs, f a = g b ∧ R a b)
    (hright : ∀ b ∈ bs, ∃ a ∈ as, f a = g b) :
    List.Forall₂ R as bs := by
  have hmem : ∀ key, key ∈ as.map f ↔ key ∈ bs.map g := by
    intro key
    rw [List.mem_map, List.mem_map]
    constructor
    · rintro ⟨a, ha, rfl⟩
      obtain ⟨b, hb, hkey, -⟩ := hleft a ha
      exact ⟨b, hb, hkey.symm⟩
    · rintro ⟨b, hb, rfl⟩
      exact hright b hb
  have hnodup : ∀ {keys : List κ}, keys.Pairwise (· < ·) → keys.Nodup :=
    fun h => h.imp fun hlt => ne_of_lt hlt
  have hkeys : as.map f = bs.map g :=
    ((List.perm_ext_iff_of_nodup (hnodup has) (hnodup hbs)).mpr
      hmem).eq_of_pairwise (fun a b _ _ hab hba => absurd hba (lt_asymm hab))
      has hbs
  rw [List.forall₂_iff_get]
  have hlength : as.length = bs.length := by
    simpa using congrArg List.length hkeys
  refine ⟨hlength, fun i hi hi' => ?_⟩
  obtain ⟨b, hb, hkey, hrel⟩ := hleft _ (List.getElem_mem hi)
  have hi'' : f as[i] = g bs[i] := by
    have hmap := List.getElem_of_eq hkeys (i := i) (by rwa [List.length_map])
    rwa [List.getElem_map, List.getElem_map] at hmap
  have heq : b = bs[i] :=
    List.inj_on_of_nodup_map (hnodup hbs) hb (List.getElem_mem hi')
      (hkey.symm.trans hi'')
  rw [heq] at hrel
  exact hrel

/-- What stands beside a list in two parts has two parts. -/
theorem exists_append_of_forall₂
    {α β : Type} {R : α → β → Prop} {as as' : List α} {bs : List β}
    (h : List.Forall₂ R (as ++ as') bs) :
    ∃ cs cs', bs = cs ++ cs' ∧ List.Forall₂ R as cs ∧
      List.Forall₂ R as' cs' := by
  induction as generalizing bs with
  | nil => exact ⟨[], bs, rfl, .nil, h⟩
  | cons a as ih =>
      obtain ⟨b, rest, hab, hrest, rfl⟩ := List.forall₂_cons_left_iff.mp h
      obtain ⟨cs, cs', rfl, hcs, hcs'⟩ := ih hrest
      exact ⟨b :: cs, cs', rfl, .cons hab hcs, hcs'⟩

theorem map_eq_map_of_forall₂
    {α β γ : Type} {R : α → β → Prop} {f : α → γ} {g : β → γ}
    {as : List α} {bs : List β}
    (hfg : ∀ a b, R a b → f a = g b) (h : List.Forall₂ R as bs) :
    as.map f = bs.map g := by
  induction h with
  | nil => rfl
  | cons hab _ ih => rw [List.map_cons, List.map_cons, hfg _ _ hab, ih]

/-- Related lists keep the same elements where a test keeps only elements that
are related to themselves. -/
theorem filter_eq_filter_of_forall₂
    {α : Type} {R : α → α → Prop} {p : α → Bool} {as bs : List α}
    (hp : ∀ a b, R a b → p a = p b) (heq : ∀ a b, R a b → p a = true → a = b)
    (h : List.Forall₂ R as bs) :
    as.filter p = bs.filter p := by
  induction h with
  | nil => rfl
  | @cons a b as bs hab _ ih =>
      by_cases hpa : p a = true
      · rw [List.filter_cons_of_pos hpa,
          List.filter_cons_of_pos ((hp a b hab).symm.trans hpa), ih,
          heq a b hab hpa]
      · have hpb : ¬ p b = true := fun hpb => hpa ((hp a b hab).trans hpb)
        rw [List.filter_cons_of_neg hpa, List.filter_cons_of_neg hpb, ih]

/-- Results that keep the key of their element keep the order of the keys. -/
theorem map_filterMap_sublist
    {α β κ : Type} {F : α → Option β} {f : α → κ} {g : β → κ} {as : List α}
    (h : ∀ a ∈ as, ∀ b, F a = some b → g b = f a) :
    ((as.filterMap F).map g).Sublist (as.map f) := by
  induction as with
  | nil => exact List.Sublist.slnil
  | cons a as ih =>
      obtain ⟨hfirst, hrest⟩ := List.forall_mem_cons.mp h
      rw [List.filterMap_cons, List.map_cons]
      cases hF : F a with
      | none => exact (ih hrest).cons _
      | some b =>
          rw [List.map_cons, hfirst b hF]
          exact (ih hrest).cons_cons _

theorem filterMap_eq_of_forall₂
    {α β γ : Type} {R : α → β → Prop} {f : α → Option γ} {g : β → Option γ}
    {as : List α} {bs : List β}
    (hfg : ∀ a b, R a b → f a = g b) (h : List.Forall₂ R as bs) :
    as.filterMap f = bs.filterMap g := by
  induction h with
  | nil => rfl
  | cons hab _ ih =>
      rw [List.filterMap_cons, List.filterMap_cons, hfg _ _ hab, ih]

/-- What two elements side by side give stands side by side. -/
theorem mem_zip_filterMap
    {α β γ δ : Type} {f : α → Option γ} {g : β → Option δ}
    {as : List α} {bs : List β} {a : α} {b : β} {c : γ} {d : δ}
    (hfg : List.Forall₂ (fun a b => (f a).isSome = (g b).isSome) as bs)
    (hmem : (a, b) ∈ as.zip bs) (hc : f a = some c) (hd : g b = some d) :
    (c, d) ∈ (as.filterMap f).zip (bs.filterMap g) := by
  induction hfg with
  | nil => simp at hmem
  | @cons a' b' as bs hsome _ ih =>
      rw [List.zip_cons_cons, List.mem_cons] at hmem
      rw [List.filterMap_cons, List.filterMap_cons]
      rcases hmem with heq | hmem
      · obtain ⟨rfl, rfl⟩ := Prod.mk.inj heq
        rw [hc, hd]
        exact List.mem_cons_self
      · have htail := ih hmem
        cases hf : f a' with
        | none =>
            rw [hf, Option.isSome_none, eq_comm, Option.isSome_eq_false_iff,
              Option.isNone_iff_eq_none] at hsome
            rw [hsome]
            exact htail
        | some c' =>
            rw [hf, Option.isSome_some, eq_comm,
              Option.isSome_iff_exists] at hsome
            obtain ⟨d', hd'⟩ := hsome
            rw [hd']
            exact List.mem_cons_of_mem _ htail

theorem filterMap_concat
    {α β : Type} (f : α → Option β) (items : List α) (a : α) :
    (items ++ [a]).filterMap f = items.filterMap f ++ (f a).toList := by
  rw [List.filterMap_append]
  cases h : f a <;> simp [h]

/-- What is kept and what is rejected together is everything. -/
theorem length_filterMap_add_length_filterMap
    {α β γ : Type} {f : α → Option β} {g : α → Option γ}
    (h : ∀ a, (g a).isSome = !(f a).isSome) (items : List α) :
    (items.filterMap f).length + (items.filterMap g).length =
      items.length := by
  induction items with
  | nil => rfl
  | cons a items ih =>
      have ha := h a
      rw [List.filterMap_cons, List.filterMap_cons]
      cases hf : f a <;> cases hg : g a <;>
        simp_all only [Option.isSome_none, Option.isSome_some, Bool.not_true,
          Bool.not_false, Bool.true_eq_false, Bool.false_eq_true,
          List.length_cons] <;> omega

/-- Totals of dominated terms agree exactly if the terms do. -/
theorem sum_map_eq_iff_of_le
    {α : Type} {f g : α → ℕ} {items : List α}
    (h : ∀ a ∈ items, f a ≤ g a) :
    (items.map f).sum = (items.map g).sum ↔ ∀ a ∈ items, f a = g a := by
  induction items with
  | nil => simp
  | cons a items ih =>
      obtain ⟨ha, hrest⟩ := List.forall_mem_cons.mp h
      have hsum : (items.map f).sum ≤ (items.map g).sum :=
        List.sum_le_sum hrest
      rw [List.forall_mem_cons, ← ih hrest, List.map_cons, List.map_cons,
        List.sum_cons, List.sum_cons]
      omega

/-! ## Interleavings -/

/-- The third list holds the elements of the other two, each in their
order. -/
inductive Interleaved {α : Type} : List α → List α → List α → Prop
  | nil : Interleaved [] [] []
  | left {xs ys zs : List α} (a : α) (rest : Interleaved xs ys zs) :
      Interleaved (a :: xs) ys (a :: zs)
  | right {xs ys zs : List α} (a : α) (rest : Interleaved xs ys zs) :
      Interleaved xs (a :: ys) (a :: zs)

namespace Interleaved

variable {α β : Type} {xs ys zs : List α}

theorem append (xs ys : List α) : Interleaved xs ys (xs ++ ys) := by
  induction xs with
  | nil =>
      induction ys with
      | nil => exact nil
      | cons a ys ih => exact right a ih
  | cons a xs ih => exact left a ih

theorem mem_iff (h : Interleaved xs ys zs) (a : α) :
    a ∈ zs ↔ a ∈ xs ∨ a ∈ ys := by
  induction h with
  | nil => simp
  | left b _ ih => rw [List.mem_cons, List.mem_cons, ih, or_assoc]
  | right b _ ih =>
      rw [List.mem_cons, List.mem_cons, ih]
      exact or_left_comm

/-- Elements of the second list that a fold skips play no part in it. -/
theorem foldl_eq (h : Interleaved xs ys zs) {f : β → α → β}
    (hskip : ∀ acc, ∀ a ∈ ys, f acc a = acc) (acc : β) :
    zs.foldl f acc = xs.foldl f acc := by
  induction h generalizing acc with
  | nil => rfl
  | left b _ ih => exact ih hskip (f acc b)
  | right b _ ih =>
      obtain ⟨hb, hrest⟩ := List.forall_mem_cons.mp fun a ha acc =>
        hskip acc a ha
      rw [List.foldl_cons, hb]
      exact ih (fun acc a ha => hrest a ha acc) acc

/-- Elements of the second list that a filter rejects play no part in it. -/
theorem filter_eq (h : Interleaved xs ys zs) {p : α → Bool}
    (hreject : ∀ a ∈ ys, p a = false) :
    zs.filter p = xs.filter p := by
  induction h with
  | nil => rfl
  | left b _ ih => rw [List.filter_cons, List.filter_cons, ih hreject]
  | right b _ ih =>
      obtain ⟨hb, hrest⟩ := List.forall_mem_cons.mp hreject
      rw [List.filter_cons, hb, ih hrest]
      rfl

end Interleaved

/-! ## Lookup -/

section Lookup

variable {κ α : Type} [BEq κ] [LawfulBEq κ]

theorem lookup_eq_none_iff_notMem_keys
    (entries : List (κ × α)) (key : κ) :
    entries.lookup key = none ↔ key ∉ entries.map Prod.fst := by
  rw [List.lookup_eq_none_iff]
  constructor
  · intro h hmem
    obtain ⟨entry, hentry, rfl⟩ := List.mem_map.mp hmem
    simpa using h entry hentry
  · intro h entry hentry
    have hne : key ≠ entry.1 := fun heq =>
      h (heq ▸ List.mem_map_of_mem hentry)
    simpa using hne

theorem lookup_of_mem_of_nodup
    {entries : List (κ × α)} {key : κ} {value : α}
    (hnodup : (entries.map Prod.fst).Nodup) (hmem : (key, value) ∈ entries) :
    entries.lookup key = some value := by
  induction entries with
  | nil => simp at hmem
  | cons entry rest ih =>
      rw [List.map_cons, List.nodup_cons] at hnodup
      rcases List.mem_cons.mp hmem with rfl | hrest
      · simp
      · have hne : key ≠ entry.1 := fun heq =>
          hnodup.1 (heq ▸ List.mem_map_of_mem (f := Prod.fst) hrest)
        rw [List.lookup_cons, beq_eq_false_iff_ne.mpr hne]
        exact ih hnodup.2 hrest

end Lookup

/-! ## Bounded queues -/

/-- Appends to a queue that drops its oldest item when it is full. -/
def pushBounded {α : Type} (limit : ℕ) (items : List α) (a : α) : List α :=
  if limit ≤ items.length then items.tail ++ [a] else items ++ [a]

/-- A full queue makes room for the new item, so it still holds the newest
ones. -/
theorem pushBounded_drop {α : Type} (limit : ℕ) (log : List α) (a : α) :
    pushBounded limit (log.drop (log.length - max limit 1)) a =
      (log ++ [a]).drop (log.length + 1 - max limit 1) := by
  rw [pushBounded, List.length_drop]
  split
  · next hfull =>
      rw [List.tail_drop]
      by_cases hempty : log = []
      · rw [hempty]
        simp
      · have hpos : 0 < log.length := List.length_pos_iff.mpr hempty
        have hstart : log.length - max limit 1 + 1 =
            log.length + 1 - max limit 1 := by
          omega
        rw [hstart, List.drop_append_of_le_length (by omega)]
  · next hroom =>
      have hstart : log.length - max limit 1 = 0 := by omega
      have hstart' : log.length + 1 - max limit 1 = 0 := by omega
      rw [hstart, hstart', List.drop_zero, List.drop_zero]

/-- A prefix with the same image is the whole list, if no image is empty. -/
theorem eq_of_prefix_of_flatMap_eq {α β : Type} {f : α → List β}
    (hf : ∀ a, f a ≠ []) {xs ys : List α} (hpre : xs <+: ys)
    (h : xs.flatMap f = ys.flatMap f) :
    xs = ys := by
  obtain ⟨rest, rfl⟩ := hpre
  rw [List.flatMap_append, List.self_eq_append_right] at h
  cases rest with
  | nil => rw [List.append_nil]
  | cons a rest =>
      rw [List.flatMap_cons, List.append_eq_nil_iff] at h
      exact absurd h.1 (hf a)

/-- What each item is turned into is read one by one. -/
theorem mapM_map_eq_some_map {α β γ : Type} {f : β → Option γ} {g : α → β}
    {r : α → γ} {items : List α} (h : ∀ a ∈ items, f (g a) = some (r a)) :
    (items.map g).mapM f = some (items.map r) := by
  induction items with
  | nil => rfl
  | cons a items ih =>
      rw [List.map_cons, List.mapM_cons, h a List.mem_cons_self,
        ih fun b hb => h b (List.mem_cons_of_mem _ hb)]
      rfl

/-- What each item is turned into is read back as the item. -/
theorem mapM_map_eq_some {α β : Type} {f : β → Option α} {g : α → β}
    {items : List α} (h : ∀ a ∈ items, f (g a) = some a) :
    (items.map g).mapM f = some items := by
  rw [mapM_map_eq_some_map h, List.map_id']

/-- A field that some items overwrite has the value of the last of them. -/
theorem foldl_overwritten {σ ι β : Type} {step : σ → ι → σ} {field : σ → β}
    {write : ι → Option β}
    (h : ∀ s i, field (step s i) = (write i).getD (field s))
    (items : List ι) (s : σ) :
    field (items.foldl step s) =
      (items.filterMap write).getLast?.getD (field s) := by
  induction items generalizing s with
  | nil => rfl
  | cons i rest ih =>
      rw [List.foldl_cons, ih, h]
      cases hwrite : write i with
      | none => rw [List.filterMap_cons_none hwrite, Option.getD_none]
      | some b =>
          rw [List.filterMap_cons_some hwrite, List.getLast?_cons,
            Option.getD_some, Option.getD_some]

/-- Replacing an item replaces its share of a sum. -/
theorem sum_map_set {α : Type} (f : α → ℕ) {items : List α} {i : ℕ} {a : α}
    (h : items[i]? = some a) (b : α) :
    ((items.set i b).map f).sum + f a = (items.map f).sum + f b := by
  induction items generalizing i with
  | nil => exact absurd h (by simp)
  | cons c items ih =>
      cases i with
      | zero =>
          obtain rfl := Option.some.inj h
          simp only [List.set_cons_zero, List.map_cons, List.sum_cons]
          omega
      | succ i =>
          have hrest := ih h
          simp only [List.set_cons_succ, List.map_cons, List.sum_cons]
          omega

/-- A share is at most the sum. -/
theorem le_sum_map {α : Type} (f : α → ℕ) {items : List α} {a : α}
    (h : a ∈ items) : f a ≤ (items.map f).sum :=
  List.le_sum_of_mem (List.mem_map_of_mem h)

/-! ## Parts and passes -/

theorem exists_mem_splitOn {α : Type} [BEq α] [LawfulBEq α] {sep a : α}
    {as : List α} (h : a ∈ as) (hne : a ≠ sep) :
    ∃ part ∈ as.splitOn sep, a ∈ part := by
  induction as with
  | nil => exact absurd h List.not_mem_nil
  | cons b as ih =>
      rw [List.splitOn_cons_eq_if_modifyHead]
      split
      · next hsep =>
          have hmem : a ∈ as := by
            rcases List.mem_cons.mp h with rfl | h
            · exact absurd (eq_of_beq hsep) hne
            · exact h
          obtain ⟨part, hpart, ha⟩ := ih hmem
          exact ⟨part, List.mem_cons_of_mem _ hpart, ha⟩
      · obtain ⟨first, rest, hsplit⟩ :=
          List.exists_cons_of_ne_nil (List.splitOn_ne_nil sep as)
        rw [hsplit, List.modifyHead_cons]
        rcases List.mem_cons.mp h with rfl | h
        · exact ⟨_, List.mem_cons_self, List.mem_cons_self⟩
        · obtain ⟨part, hpart, ha⟩ := ih h
          rw [hsplit] at hpart
          rcases List.mem_cons.mp hpart with rfl | hpart
          · exact ⟨_, List.mem_cons_self, List.mem_cons_of_mem b ha⟩
          · exact ⟨part, List.mem_cons_of_mem _ hpart, ha⟩

theorem forM_eq_ok {α ε : Type} {f : α → Except ε Unit} {as : List α}
    (h : as.forM f = .ok ()) : ∀ a ∈ as, f a = .ok () := by
  induction as with
  | nil => exact List.forall_mem_nil _
  | cons a as ih =>
      change (f a >>= fun _ => as.forM f) = .ok () at h
      cases hf : f a with
      | error e =>
          rw [hf] at h
          exact absurd h (by simp [bind, Except.bind])
      | ok u =>
          rw [hf] at h
          exact List.forall_mem_cons.mpr ⟨hf, ih h⟩

/-- A fold whose steps commute and never decrease grows with the items. -/
theorem foldl_le_foldl_of_subperm
    {α β : Type} [Preorder β] {f : β → α → β}
    (hcomm : ∀ b x y, f (f b x) y = f (f b y) x)
    (hmono : ∀ {b c}, b ≤ c → ∀ x, f b x ≤ f c x) (hle : ∀ b x, b ≤ f b x)
    {xs ys : List α} (h : xs.Subperm ys) (b : β) :
    xs.foldl f b ≤ ys.foldl f b := by
  have hfold : ∀ {zs ws : List α}, zs.Sublist ws → ∀ {b c}, b ≤ c →
      zs.foldl f b ≤ ws.foldl f c := by
    intro zs ws hsub
    induction hsub with
    | slnil => exact id
    | cons a _ ih =>
        intro b c hbc
        exact ih (hbc.trans (hle c a))
    | cons_cons a _ ih =>
        intro b c hbc
        exact ih (hmono hbc a)
  obtain ⟨zs, hperm, hsub⟩ := h
  have hsame : xs.foldl f b = zs.foldl f b := by
    have : RightCommutative f := ⟨hcomm⟩
    exact hperm.symm.foldl_eq b
  rw [hsame]
  exact hfold hsub le_rfl

end Darcbench
