import Mathlib.Data.List.MinMax

/-!
# The first and the last greatest element

Where several elements of a list have the greatest value, a search from the
front and one from the back end at different elements.
-/

namespace Darcbench.Maxima

variable {α ι : Type*} [LinearOrder ι] {f : α → ι} {l : List α} {a b : α}

/-- No element of the list exceeds this one, and those before it stay below. -/
def IsFirstMax (f : α → ι) (l : List α) (a : α) : Prop :=
  ∃ before after, l = before ++ a :: after ∧ (∀ b ∈ before, f b < f a) ∧
    ∀ b ∈ after, f b ≤ f a

/-- No element of the list exceeds this one, and those after it stay below. -/
def IsLastMax (f : α → ι) (l : List α) (a : α) : Prop :=
  ∃ before after, l = before ++ a :: after ∧ (∀ b ∈ before, f b ≤ f a) ∧
    ∀ b ∈ after, f b < f a

theorem IsFirstMax.mem (h : IsFirstMax f l a) : a ∈ l := by
  obtain ⟨before, after, rfl, -, -⟩ := h
  exact List.mem_append_right _ List.mem_cons_self

theorem IsLastMax.mem (h : IsLastMax f l a) : a ∈ l := by
  obtain ⟨before, after, rfl, -, -⟩ := h
  exact List.mem_append_right _ List.mem_cons_self

theorem IsFirstMax.le (h : IsFirstMax f l a) (hb : b ∈ l) : f b ≤ f a := by
  obtain ⟨before, after, rfl, hbefore, hafter⟩ := h
  rcases List.mem_append.mp hb with hb | hb
  · exact (hbefore b hb).le
  · rcases List.mem_cons.mp hb with rfl | hb
    · exact le_rfl
    · exact hafter b hb

theorem IsLastMax.le (h : IsLastMax f l a) (hb : b ∈ l) : f b ≤ f a := by
  obtain ⟨before, after, rfl, hbefore, hafter⟩ := h
  rcases List.mem_append.mp hb with hb | hb
  · exact hbefore b hb
  · rcases List.mem_cons.mp hb with rfl | hb
    · exact le_rfl
    · exact (hafter b hb).le

/-- Looking from the back exchanges the first and the last. -/
theorem isLastMax_reverse : IsLastMax f l.reverse a ↔ IsFirstMax f l a := by
  constructor
  · rintro ⟨before, after, heq, hbefore, hafter⟩
    refine ⟨after.reverse, before.reverse, ?_, ?_, ?_⟩
    · rw [← List.reverse_reverse l, heq, List.reverse_append,
        List.reverse_cons, List.append_assoc, List.singleton_append]
    · exact fun b hb => hafter b (List.mem_reverse.mp hb)
    · exact fun b hb => hbefore b (List.mem_reverse.mp hb)
  · rintro ⟨before, after, rfl, hbefore, hafter⟩
    refine ⟨after.reverse, before.reverse, ?_, ?_, ?_⟩
    · rw [List.reverse_append, List.reverse_cons, List.append_assoc,
        List.singleton_append]
    · exact fun b hb => hafter b (List.mem_reverse.mp hb)
    · exact fun b hb => hbefore b (List.mem_reverse.mp hb)

/-- A strict comparison from the front keeps the first greatest element. -/
theorem isFirstMax_of_argmax (h : l.argmax f = some a) :
    IsFirstMax f l a := by
  induction l using List.reverseRecOn generalizing a with
  | nil => cases h
  | append_singleton l c ih =>
      rw [List.argmax_concat] at h
      cases hl : l.argmax f with
      | none =>
          rw [hl] at h
          obtain rfl := List.argmax_eq_none.mp hl
          obtain rfl := Option.some.inj h
          exact ⟨[], [], rfl, fun _ h => absurd h List.not_mem_nil,
            fun _ h => absurd h List.not_mem_nil⟩
      | some d =>
          have hd := ih hl
          rw [hl] at h
          dsimp only at h
          split at h
          · next hlt =>
              obtain rfl := Option.some.inj h
              exact ⟨l, [], rfl, fun b hb => (hd.le hb).trans_lt hlt,
                fun _ h => absurd h List.not_mem_nil⟩
          · next hlt =>
              obtain rfl := Option.some.inj h
              obtain ⟨before, after, rfl, hbefore, hafter⟩ := hd
              refine ⟨before, after ++ [c], ?_, hbefore, ?_⟩
              · rw [List.append_assoc, List.cons_append]
              · intro b hb
                rcases List.mem_append.mp hb with hb | hb
                · exact hafter b hb
                · obtain rfl := List.mem_singleton.mp hb
                  exact not_lt.mp hlt

theorem exists_isFirstMax (h : l ≠ []) : ∃ a, IsFirstMax f l a := by
  cases hl : l.argmax f with
  | none => exact absurd (List.argmax_eq_none.mp hl) h
  | some a => exact ⟨a, isFirstMax_of_argmax hl⟩

theorem exists_isLastMax (h : l ≠ []) : ∃ a, IsLastMax f l a := by
  obtain ⟨a, ha⟩ := exists_isFirstMax (f := f) (List.reverse_ne_nil_iff.mpr h)
  exact ⟨a, List.reverse_reverse l ▸ isLastMax_reverse.mpr ha⟩

theorem IsFirstMax.unique (h : IsFirstMax f l a) (h' : IsFirstMax f l b) :
    a = b := by
  have hle := h.le h'.mem
  have hle' := h'.le h.mem
  obtain ⟨before, after, rfl, hbefore, -⟩ := h
  obtain ⟨before', after', heq, hbefore', -⟩ := h'
  rcases List.append_eq_append_iff.mp heq with
    ⟨between, hbetween, hrest⟩ | ⟨between, hbetween, hrest⟩
  · cases between with
    | nil => exact (List.cons.inj hrest).1
    | cons c between =>
        obtain rfl := (List.cons.inj hrest).1
        have hmem : a ∈ before' :=
          hbetween ▸ List.mem_append_right _ List.mem_cons_self
        exact absurd (hbefore' a hmem) (not_lt.mpr hle)
  · cases between with
    | nil => exact (List.cons.inj hrest).1.symm
    | cons c between =>
        obtain rfl := (List.cons.inj hrest).1
        have hmem : b ∈ before :=
          hbetween ▸ List.mem_append_right _ List.mem_cons_self
        exact absurd (hbefore b hmem) (not_lt.mpr hle')

theorem IsLastMax.unique (h : IsLastMax f l a) (h' : IsLastMax f l b) :
    a = b := by
  rw [← List.reverse_reverse l] at h h'
  exact (isLastMax_reverse.mp h).unique (isLastMax_reverse.mp h')

end Darcbench.Maxima
