import Mathlib.Data.List.Forall2
import Mathlib.Data.List.Induction
import Mathlib.Data.List.Nodup

/-!
# The latest report under every key

Reports arrive one after the other, and a list keeps the latest one under every
key.  When the reports come from several owners, such a list shows every owner
its own latest reports exactly if no key has two owners.
-/

namespace Darcbench

variable {α κ μ : Type} [DecidableEq κ] [DecidableEq μ] {key : α → κ}

/-! ## Setting a key -/

/-- Sets an item in a list with one item per key.  A key keeps its place. -/
def setKeyed (key : α → κ) (items : List α) (a : α) : List α :=
  if items.any fun b => decide (key b = key a) then
    items.map fun b => if key b = key a then a else b
  else
    items ++ [a]

theorem any_key_iff {items : List α} {a : α} :
    (items.any fun b => decide (key b = key a)) = true ↔
      key a ∈ items.map key := by
  rw [List.any_eq_true, List.mem_map]
  simp only [decide_eq_true_eq]

theorem setKeyed_of_notMem {items : List α} {a : α}
    (h : key a ∉ items.map key) : setKeyed key items a = items ++ [a] := by
  rw [setKeyed, if_neg (mt any_key_iff.mp h)]

theorem mem_setKeyed_iff {items : List α} {a b : α} :
    b ∈ setKeyed key items a ↔ b = a ∨ b ∈ items ∧ key b ≠ key a := by
  by_cases hany : (items.any fun b => decide (key b = key a)) = true
  · rw [setKeyed, if_pos hany, List.mem_map]
    constructor
    · rintro ⟨c, hc, rfl⟩
      by_cases hkey : key c = key a
      · rw [if_pos hkey]
        exact .inl rfl
      · rw [if_neg hkey]
        exact .inr ⟨hc, hkey⟩
    · rintro (rfl | ⟨hb, hkey⟩)
      · obtain ⟨c, hc, hkey⟩ := List.mem_map.mp (any_key_iff.mp hany)
        exact ⟨c, hc, if_pos hkey⟩
      · exact ⟨b, hb, if_neg hkey⟩
  · have hnew : key a ∉ items.map key := mt any_key_iff.mpr hany
    rw [setKeyed_of_notMem hnew, List.mem_append, List.mem_singleton, or_comm]
    refine or_congr_right ⟨fun hb => ⟨hb, fun hkey => hnew ?_⟩, And.left⟩
    exact hkey ▸ List.mem_map_of_mem hb

theorem nodup_setKeyed {items : List α} (h : (items.map key).Nodup) (a : α) :
    ((setKeyed key items a).map key).Nodup := by
  by_cases hany : (items.any fun b => decide (key b = key a)) = true
  · have hkeys : (setKeyed key items a).map key = items.map key := by
      rw [setKeyed, if_pos hany, List.map_map]
      refine List.map_congr_left fun b _ => ?_
      rw [Function.comp_apply]
      split
      · next hkey => exact hkey.symm
      · rfl
    rwa [hkeys]
  · have hnew : key a ∉ items.map key := mt any_key_iff.mpr hany
    rw [setKeyed_of_notMem hnew, List.map_append, List.map_singleton]
    refine h.append (List.nodup_singleton _) ?_
    rwa [List.disjoint_singleton]

/-- Items with different keys are set one behind the other. -/
theorem foldl_setKeyed_of_nodup {items : List α} (h : (items.map key).Nodup) :
    items.foldl (setKeyed key) [] = items := by
  induction items using List.reverseRecOn with
  | nil => rfl
  | append_singleton items a ih =>
      rw [List.map_append, List.map_singleton] at h
      have hnew : key a ∉ items.map key := fun ha =>
        List.disjoint_of_nodup_append h ha (List.mem_singleton_self _)
      rw [List.foldl_append, ih h.of_append_left]
      exact setKeyed_of_notMem hnew

/-! ## The latest report -/

/-- The last of the reports under a key. -/
def latest (key : α → κ) (reports : List α) (k : κ) : Option α :=
  (reports.filter fun a => decide (key a = k)).getLast?

theorem latest_append (reports more : List α) (k : κ) :
    latest key (reports ++ more) k =
      (latest key more k).or (latest key reports k) := by
  rw [latest, List.filter_append, List.getLast?_append]
  rfl

theorem latest_concat (reports : List α) (a : α) (k : κ) :
    latest key (reports ++ [a]) k =
      if key a = k then some a else latest key reports k := by
  rw [latest_append]
  by_cases hkey : key a = k
  · have hlast : latest key [a] k = some a := by simp [latest, hkey]
    rw [if_pos hkey, hlast]
    rfl
  · have hnone : latest key [a] k = none := by simp [latest, hkey]
    rw [if_neg hkey, hnone]
    rfl

theorem mem_of_latest {reports : List α} {k : κ} {a : α}
    (h : latest key reports k = some a) : a ∈ reports ∧ key a = k := by
  have hmem := List.mem_filter.mp (List.mem_of_getLast? h)
  exact ⟨hmem.1, of_decide_eq_true hmem.2⟩

theorem exists_latest {reports : List α} {a : α} (h : a ∈ reports) :
    ∃ b, latest key reports (key a) = some b := by
  have hmem : a ∈ reports.filter fun b => decide (key b = key a) :=
    List.mem_filter.mpr ⟨h, decide_eq_true rfl⟩
  exact ⟨_, List.getLast?_eq_some_getLast (List.ne_nil_of_mem hmem)⟩

theorem latest_map {β : Type} {f : β → α} (reports : List β) (k : κ) :
    latest key (reports.map f) k =
      (latest (fun b => key (f b)) reports k).map f := by
  rw [latest, List.filter_map, List.getLast?_map]
  rfl

/-- The list holds the latest report under every key, and nothing else. -/
structure Latest (key : α → κ) (reports items : List α) : Prop where
  nodup : (items.map key).Nodup
  mem_iff : ∀ a, a ∈ items ↔ latest key reports (key a) = some a

namespace Latest

variable {reports items : List α}

theorem nil : Latest key ([] : List α) [] where
  nodup := List.nodup_nil
  mem_iff a := by
    constructor
    · exact fun ha => absurd ha List.not_mem_nil
    · exact fun ha => absurd (mem_of_latest ha).1 List.not_mem_nil

theorem set (h : Latest key reports items) (a : α) :
    Latest key (reports ++ [a]) (setKeyed key items a) where
  nodup := nodup_setKeyed h.nodup a
  mem_iff b := by
    rw [mem_setKeyed_iff, h.mem_iff, latest_concat]
    by_cases hkey : key a = key b
    · rw [if_pos hkey, Option.some_inj]
      exact ⟨fun hb => hb.elim Eq.symm fun hne => absurd hkey.symm hne.2,
        fun hb => .inl hb.symm⟩
    · rw [if_neg hkey]
      refine ⟨fun hb => ?_, fun hb => .inr ⟨hb, Ne.symm hkey⟩⟩
      rcases hb with rfl | hb
      · exact absurd rfl hkey
      · exact hb.1

theorem foldl (h : Latest key reports items) (more : List α) :
    Latest key (reports ++ more) (more.foldl (setKeyed key) items) := by
  induction more using List.reverseRecOn with
  | nil => rwa [List.append_nil]
  | append_singleton more a ih =>
      rw [← List.append_assoc, List.foldl_append]
      exact ih.set a

theorem perm (h : Latest key reports items) {items' : List α}
    (hperm : items'.Perm items) : Latest key reports items' where
  nodup := (hperm.map key).nodup_iff.mpr h.nodup
  mem_iff a := by rw [hperm.mem_iff, h.mem_iff]

/-- The same list under another name for its items. -/
theorem map (h : Latest key reports items) {β : Type} {f : α → β}
    {key' : β → κ} (hkey : ∀ a, key' (f a) = key a) :
    Latest key' (reports.map f) (items.map f) where
  nodup := by
    rw [List.map_map]
    have hcomp : key' ∘ f = key := funext hkey
    rw [hcomp]
    exact h.nodup
  mem_iff b := by
    have hcomp : (fun a => key' (f a)) = key := funext hkey
    rw [latest_map, hcomp, Option.map_eq_some_iff, List.mem_map]
    constructor
    · rintro ⟨a, ha, rfl⟩
      rw [hkey]
      exact ⟨a, (h.mem_iff a).mp ha, rfl⟩
    · rintro ⟨a, ha, rfl⟩
      rw [hkey] at ha
      exact ⟨a, (h.mem_iff a).mpr ha, rfl⟩

theorem exists_mem (h : Latest key reports items) {a : α} (ha : a ∈ reports) :
    ∃ b ∈ items, key b = key a := by
  obtain ⟨b, hb⟩ : ∃ b, latest key reports (key a) = some b :=
    exists_latest ha
  have hkey := (mem_of_latest hb).2
  exact ⟨b, (h.mem_iff b).mpr (hkey ▸ hb), hkey⟩

end Latest

/-! ## Reports of several owners -/

/-- The list has one item for every owner and key, and shows what belongs to
them. -/
def Listed (owned : List (μ × κ)) (shown : μ × κ → Option α)
    (items : List α) : Prop :=
  ∃ pairs : List (μ × κ), pairs.Nodup ∧ (∀ p, p ∈ pairs ↔ p ∈ owned) ∧
    List.Forall₂ (fun p a => shown p = some a) pairs items

/-- No key has two owners. -/
def KeysUnshared (owned : List (μ × κ)) : Prop :=
  ∀ p ∈ owned, ∀ q ∈ owned, p.2 = q.2 → p.1 = q.1

/-- The owner and the key of a report. -/
def ownedKey (key : α → κ) (report : μ × α) : μ × κ :=
  (report.1, key report.2)

/-- The last report of an owner under a key. -/
def latestOf (key : α → κ) (reports : List (μ × α)) (p : μ × κ) : Option α :=
  (latest (ownedKey key) reports p).map Prod.snd

theorem latestOf_append (reports more : List (μ × α)) (p : μ × κ) :
    latestOf key (reports ++ more) p =
      (latestOf key more p).or (latestOf key reports p) := by
  rw [latestOf, latest_append, Option.map_or]
  rfl

theorem latestOf_map {β : Type} {f : β → α} (reports : List (μ × β))
    (p : μ × κ) :
    latestOf key (reports.map (Prod.map id f)) p =
      (latestOf (fun b => key (f b)) reports p).map f := by
  rw [latestOf, latest_map, latestOf, Option.map_map, Option.map_map]
  rfl

theorem key_of_latestOf {reports : List (μ × α)} {p : μ × κ} {a : α}
    (h : latestOf key reports p = some a) : key a = p.2 := by
  obtain ⟨report, hreport, rfl⟩ := Option.map_eq_some_iff.mp h
  exact congrArg Prod.snd (mem_of_latest hreport).2

theorem map_snd_of_shown {reports : List (μ × α)} {pairs : List (μ × κ)}
    {items : List α}
    (h : List.Forall₂ (fun p a => latestOf key reports p = some a)
      pairs items) : pairs.map Prod.snd = items.map key := by
  induction h with
  | nil => rfl
  | cons hhead _ ih =>
      rw [List.map_cons, List.map_cons, ih, key_of_latestOf hhead]

/-- Where no key is shared, the owner does not matter. -/
theorem latestOf_eq_latest {reports : List (μ × α)}
    (h : KeysUnshared (reports.map (ownedKey key))) {p : μ × κ}
    (hp : p ∈ reports.map (ownedKey key)) :
    latestOf key reports p = latest key (reports.map Prod.snd) p.2 := by
  rw [latest_map, latestOf, latest, latest]
  refine congrArg (fun l => (List.getLast? l).map Prod.snd) ?_
  refine List.filter_congr fun report hreport => ?_
  rw [decide_eq_decide]
  constructor
  · rintro rfl
    rfl
  · intro hkey
    exact Prod.ext (h _ (List.mem_map_of_mem hreport) p hp hkey) hkey

/-- A list of the latest reports lists those of every owner exactly if the
owners share no key. -/
theorem listed_iff {reports : List (μ × α)} {items : List α}
    (h : Latest key (reports.map Prod.snd) items) :
    Listed (reports.map (ownedKey key)) (latestOf key reports) items ↔
      KeysUnshared (reports.map (ownedKey key)) := by
  constructor
  · rintro ⟨pairs, -, hmem, hshown⟩
    have hkeys := map_snd_of_shown hshown
    intro p hp q hq hkey
    have hnodup : (pairs.map Prod.snd).Nodup := hkeys ▸ h.nodup
    exact congrArg Prod.fst (List.inj_on_of_nodup_map hnodup
      ((hmem p).mpr hp) ((hmem q).mpr hq) hkey)
  · intro hunshared
    have hitem : ∀ a ∈ items, ∃ p ∈ reports.map (ownedKey key),
        latestOf key reports p = some a := by
      intro a ha
      have hlatest := (h.mem_iff a).mp ha
      obtain ⟨report, hreport, rfl⟩ :=
        List.mem_map.mp (mem_of_latest hlatest).1
      have hp := List.mem_map_of_mem (f := ownedKey key) hreport
      exact ⟨_, hp, (latestOf_eq_latest hunshared hp).trans hlatest⟩
    have hpairs : ∃ pairs : List (μ × κ),
        (∀ p ∈ pairs, p ∈ reports.map (ownedKey key)) ∧
        List.Forall₂ (fun p a => latestOf key reports p = some a)
          pairs items := by
      clear h
      induction items with
      | nil => exact ⟨[], by simp, .nil⟩
      | cons a items ih =>
          obtain ⟨p, hp, hshown⟩ := hitem a List.mem_cons_self
          obtain ⟨pairs, hmem, hall⟩ := ih fun b hb =>
            hitem b (List.mem_cons_of_mem a hb)
          exact ⟨p :: pairs, List.forall_mem_cons.mpr ⟨hp, hmem⟩,
            .cons hshown hall⟩
    obtain ⟨pairs, hmem, hshown⟩ := hpairs
    have hkeys := map_snd_of_shown hshown
    have hnodup : (pairs.map Prod.snd).Nodup := hkeys ▸ h.nodup
    refine ⟨pairs, hnodup.of_map _, fun p => ⟨hmem p, fun hp => ?_⟩, hshown⟩
    obtain ⟨report, hreport, rfl⟩ := List.mem_map.mp hp
    obtain ⟨a, ha, hkey⟩ := h.exists_mem (List.mem_map_of_mem hreport)
    have hin : key report.2 ∈ pairs.map Prod.snd := by
      rw [hkeys, ← hkey]
      exact List.mem_map_of_mem ha
    obtain ⟨q, hq, hqkey⟩ := List.mem_map.mp hin
    have howner := hunshared q (hmem q hq) _ hp hqkey
    have heq : q = ownedKey key report := Prod.ext howner hqkey
    exact heq ▸ hq

end Darcbench
