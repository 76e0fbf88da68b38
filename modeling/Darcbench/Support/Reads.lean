import Mathlib.Data.List.Infix

/-!
# Reading until there is enough

A stream arrives in pieces.  A loop appends pieces to its buffer until the
buffer will do, or until no piece is left.
-/

namespace Darcbench

variable {α : Type}

/-- The buffer in the end, and the pieces that were not read. -/
def readUntil (enough : List α → Bool) (buffer : List α) :
    List (List α) → List α × List (List α)
  | [] => (buffer, [])
  | chunk :: reads =>
      if enough buffer then (buffer, chunk :: reads)
      else readUntil enough (buffer ++ chunk) reads

/-- Before every piece that was read the buffer did not do. -/
def Wanted (enough : List α → Bool) (buffer : List α)
    (reads : List (List α)) : Prop :=
  ∀ before chunk after, reads = before ++ chunk :: after →
    enough (buffer ++ before.flatten) = false

theorem Wanted.nil (enough : List α → Bool) (buffer : List α) :
    Wanted enough buffer [] := by
  intro before chunk after h
  exact absurd h.symm (by simp)

theorem wanted_cons_iff {enough : List α → Bool} {buffer chunk : List α}
    {reads : List (List α)} :
    Wanted enough buffer (chunk :: reads) ↔
      enough buffer = false ∧ Wanted enough (buffer ++ chunk) reads := by
  constructor
  · intro h
    refine ⟨?_, fun before other after heq => ?_⟩
    · simpa using h [] chunk reads rfl
    · rw [List.append_assoc, ← List.flatten_cons]
      exact h (chunk :: before) other after (congrArg (chunk :: ·) heq)
  · rintro ⟨hfirst, hrest⟩ before other after heq
    cases before with
    | nil => simpa using hfirst
    | cons first before =>
        obtain ⟨rfl, htail⟩ := List.cons.inj heq
        rw [List.flatten_cons, ← List.append_assoc]
        exact hrest before other after htail

/-- What was read is in the buffer, every piece of it was wanted, and in the
end the buffer does or nothing is left. -/
theorem readUntil_spec (enough : List α → Bool) (buffer : List α)
    (reads : List (List α)) :
    ∃ used, reads = used ++ (readUntil enough buffer reads).2 ∧
      (readUntil enough buffer reads).1 = buffer ++ used.flatten ∧
      Wanted enough buffer used ∧
      (enough (readUntil enough buffer reads).1 = true ∨
        (readUntil enough buffer reads).2 = []) := by
  induction reads generalizing buffer with
  | nil =>
      exact ⟨[], rfl, (List.append_nil buffer).symm, .nil enough buffer,
        .inr rfl⟩
  | cons chunk reads ih =>
      rw [readUntil]
      by_cases henough : enough buffer = true
      · rw [if_pos henough]
        exact ⟨[], rfl, (List.append_nil buffer).symm, .nil enough buffer,
          .inl henough⟩
      · rw [if_neg henough]
        obtain ⟨used, hreads, hbuffer, hwanted, hend⟩ := ih (buffer ++ chunk)
        refine ⟨chunk :: used, ?_, ?_, ?_, hend⟩
        · exact congrArg (chunk :: ·) hreads
        · rw [hbuffer, List.flatten_cons, List.append_assoc]
        · exact wanted_cons_iff.mpr ⟨Bool.not_eq_true _ ▸ henough, hwanted⟩

/-- Pieces that are wanted are read. -/
theorem readUntil_append {enough : List α → Bool} {buffer : List α}
    {before : List (List α)} (h : Wanted enough buffer before)
    (reads : List (List α)) :
    readUntil enough buffer (before ++ reads) =
      readUntil enough (buffer ++ before.flatten) reads := by
  induction before generalizing buffer with
  | nil => rw [List.nil_append, List.flatten_nil, List.append_nil]
  | cons chunk before ih =>
      obtain ⟨hfirst, hrest⟩ := wanted_cons_iff.mp h
      rw [List.cons_append, readUntil, hfirst, if_neg Bool.false_ne_true,
        ih hrest, List.flatten_cons, List.append_assoc]

theorem readUntil_of_enough {enough : List α → Bool} {buffer : List α}
    (h : enough buffer = true) (reads : List (List α)) :
    readUntil enough buffer reads = (buffer, reads) := by
  cases reads with
  | nil => rfl
  | cons chunk reads => exact if_pos h

/-- Where a buffer that is wanted further has a bound, the last piece goes
beyond it by its own length. -/
theorem Wanted.length_le {enough : List α → Bool} {buffer : List α}
    {used : List (List α)} {bound size : ℕ} (h : Wanted enough buffer used)
    (hbound : ∀ bytes, enough bytes = false → bytes.length < bound)
    (hsize : ∀ chunk ∈ used, chunk.length ≤ size) (hne : used ≠ []) :
    (buffer ++ used.flatten).length < bound + size := by
  obtain ⟨before, last, rfl⟩ :=
    (List.eq_nil_or_concat' used).resolve_left hne
  have hlt := hbound _ (h before last [] rfl)
  have hlast := hsize last (by simp)
  rw [List.flatten_append, List.flatten_singleton, ← List.append_assoc,
    List.length_append]
  omega

/-! ## Pieces of one item, and one more -/

/-- The items one by one, and a last piece. -/
def oneByOne (items last : List α) : List (List α) :=
  items.map (fun item => [item]) ++ [last]

theorem oneByOne_cons (item : α) (items last : List α) :
    oneByOne (item :: items) last = [item] :: oneByOne items last :=
  rfl

theorem flatten_oneByOne (items last : List α) :
    (oneByOne items last).flatten = items ++ last := by
  rw [oneByOne, List.flatten_append, List.flatten_singleton,
    ← List.flatMap_def, List.flatMap_singleton']

/-- In front of each of these pieces stand some of the items. -/
theorem flatten_of_oneByOne {items last : List α} {before after : List (List α)}
    {chunk : List α} (h : oneByOne items last = before ++ chunk :: after) :
    before.flatten = items.take before.length ∧
      before.length ≤ items.length := by
  induction items generalizing before with
  | nil =>
      cases before with
      | nil => exact ⟨rfl, Nat.le_refl _⟩
      | cons first before => exact absurd h (by simp [oneByOne])
  | cons item items ih =>
      cases before with
      | nil => exact ⟨rfl, Nat.zero_le _⟩
      | cons first before =>
          rw [oneByOne_cons, List.cons_append] at h
          obtain ⟨rfl, htail⟩ := List.cons.inj h
          obtain ⟨hflatten, hle⟩ := ih htail
          rw [List.flatten_cons, hflatten, List.length_cons,
            List.take_succ_cons, List.length_cons]
          exact ⟨rfl, Nat.succ_le_succ hle⟩

/-- The pieces are wanted if every number of items is too few. -/
theorem wanted_oneByOne {enough : List α → Bool} {items last : List α}
    (h : ∀ count ≤ items.length, enough (items.take count) = false) :
    Wanted enough [] (oneByOne items last) := by
  intro before chunk after heq
  obtain ⟨hflatten, hle⟩ := flatten_of_oneByOne heq
  rw [List.nil_append, hflatten]
  exact h _ hle

end Darcbench
