import Mathlib.Data.List.Basic
import Mathlib.Data.List.Range
import Mathlib.Data.Nat.Notation

/-!
# Numbered logs and the folds that follow them

The messages of a log are numbered from zero on.  An observer folds messages
into a state and skips every message below the number that it waits for, so
that a message delivered twice takes effect once.  Such an observer follows the
log as long as no message comes before its predecessors.
-/

namespace Darcbench

variable {σ α : Type}

/-- A piece of a log grows by the message that comes next. -/
theorem concat_prefix_drop {log items : List α} {start : ℕ} {a : α}
    (hpre : items <+: log.drop start)
    (ha : log[start + items.length]? = some a) :
    items ++ [a] <+: log.drop start := by
  obtain ⟨rest, hrest⟩ := hpre
  have hget : (items ++ rest)[items.length]? = some a := by
    rw [hrest, List.getElem?_drop, ha]
  rw [List.getElem?_append_right le_rfl, Nat.sub_self] at hget
  cases rest with
  | nil => exact absurd hget (by simp)
  | cons b rest =>
      obtain rfl : b = a := Option.some.inj hget
      exact ⟨rest, by rw [← hrest, List.append_assoc]; rfl⟩

/-! ## Numbered logs -/

/-- The messages carry their positions. -/
def Numbered (seq : α → ℕ) (log : List α) : Prop :=
  log.map seq = List.range log.length

namespace Numbered

variable {seq : α → ℕ} {log : List α}

theorem nil : Numbered seq [] := rfl

theorem concat (h : Numbered seq log) {a : α} (ha : seq a = log.length) :
    Numbered seq (log ++ [a]) := by
  rw [Numbered, List.map_append, h, List.length_append, List.map_singleton,
    ha, List.length_singleton, List.range_succ]

theorem seq_of_getElem? (h : Numbered seq log) {i : ℕ} {a : α}
    (ha : log[i]? = some a) :
    seq a = i := by
  have hmap : (log.map seq)[i]? = some (seq a) := by
    rw [List.getElem?_map, ha]
    rfl
  rw [h] at hmap
  obtain ⟨hlt, hval⟩ := List.getElem?_eq_some_iff.mp hmap
  rw [← hval, List.getElem_range]

theorem getElem?_of_mem (h : Numbered seq log) {a : α} (ha : a ∈ log) :
    log[seq a]? = some a := by
  obtain ⟨i, hi⟩ := List.mem_iff_getElem?.mp ha
  rwa [h.seq_of_getElem? hi]

theorem seq_lt_length (h : Numbered seq log) {a : α} (ha : a ∈ log) :
    seq a < log.length :=
  (List.getElem?_eq_some_iff.mp (h.getElem?_of_mem ha)).1

theorem take (h : Numbered seq log) (count : ℕ) :
    Numbered seq (log.take count) := by
  rw [Numbered, List.map_take, h, List.take_range, List.length_take]

/-- The numbers from a position on are consecutive. -/
theorem map_drop (h : Numbered seq log) (start : ℕ) :
    (log.drop start).map seq = List.range' start (log.length - start) := by
  rw [List.map_drop, h, List.range_eq_range', List.drop_range',
    Nat.zero_add, Nat.mul_one]

private theorem dropWhile_of_map_eq_range' {items : List α} {start count : ℕ}
    (h : items.map seq = List.range' start count) (after : ℕ) :
    items.dropWhile (fun a => decide (seq a ≤ after)) =
      items.drop (after + 1 - start) := by
  induction items generalizing start count with
  | nil => exact List.drop_nil.symm
  | cons a rest ih =>
      cases count with
      | zero => exact absurd h (List.cons_ne_nil _ _)
      | succ count =>
          rw [List.map_cons, List.range'_succ] at h
          obtain ⟨hseq, hrest⟩ := List.cons.inj h
          rw [List.dropWhile_cons, hseq]
          by_cases hle : start ≤ after
          · have hdrop : after + 1 - start = after + 1 - (start + 1) + 1 := by
              omega
            rw [if_pos (decide_eq_true hle), ih hrest, hdrop,
              List.drop_succ_cons]
          · have hdrop : after + 1 - start = 0 := by omega
            rw [if_neg (by simpa using hle), hdrop, List.drop_zero]

/-- Skipping the numbers up to `after` in the rest of a log. -/
theorem dropWhile_le (h : Numbered seq log) {start after : ℕ}
    (hstart : start ≤ after + 1) :
    (log.drop start).dropWhile (fun a => decide (seq a ≤ after)) =
      log.drop (after + 1) := by
  rw [dropWhile_of_map_eq_range' (h.map_drop start), List.drop_drop,
    Nat.add_sub_cancel' hstart]

/-- The messages with a number of at least `start` are those from position
`start` on. -/
theorem filter_le (h : Numbered seq log) (start : ℕ) :
    log.filter (fun a => decide (start ≤ seq a)) = log.drop start := by
  have hsplit := List.take_append_drop start log
  have htake : ∀ a ∈ log.take start, ¬ start ≤ seq a := by
    intro a ha
    obtain ⟨i, hi⟩ := List.mem_iff_getElem?.mp ha
    have hlt : i < start := by
      have := (List.getElem?_eq_some_iff.mp hi).1
      exact lt_of_lt_of_le this (List.length_take_le _ _)
    rw [List.getElem?_take_of_lt hlt] at hi
    rw [h.seq_of_getElem? hi]
    exact Nat.not_le.mpr hlt
  have hdrop : ∀ a ∈ log.drop start, start ≤ seq a := by
    intro a ha
    have hmem : seq a ∈ (log.drop start).map seq := List.mem_map_of_mem ha
    rw [h.map_drop, List.mem_range'_1] at hmem
    exact hmem.1
  have hnil : (log.take start).filter (fun a => decide (start ≤ seq a)) =
      [] :=
    List.filter_eq_nil_iff.mpr fun a ha => by simpa using htake a ha
  have hself : (log.drop start).filter (fun a => decide (start ≤ seq a)) =
      log.drop start :=
    List.filter_eq_self.mpr fun a ha => decide_eq_true (hdrop a ha)
  calc
    log.filter (fun a => decide (start ≤ seq a)) =
        (log.take start ++ log.drop start).filter
          (fun a => decide (start ≤ seq a)) := by
      rw [hsplit]
    _ = log.drop start := by
      rw [List.filter_append, hnil, hself, List.nil_append]

theorem mem_drop_iff (h : Numbered seq log) {start : ℕ} {a : α} :
    a ∈ log.drop start ↔ a ∈ log ∧ start ≤ seq a := by
  rw [← h.filter_le, List.mem_filter, decide_eq_true_eq]

/-- The number of the last message. -/
theorem getLast?_drop (h : Numbered seq log) {start : ℕ}
    (hstart : start < log.length) :
    (log.drop start).getLast?.map seq = some (log.length - 1) := by
  rw [← List.getLast?_map, h.map_drop, List.getLast?_range']
  rw [if_neg (by omega), Option.some_inj]
  omega

theorem map_of_prefix_drop (h : Numbered seq log) {start : ℕ}
    {items : List α} (hpre : items <+: log.drop start) :
    items.map seq = List.range' start items.length := by
  have hmap := hpre.map seq
  rw [h.map_drop] at hmap
  have htake := List.prefix_iff_eq_take.mp hmap
  have hle := hpre.length_le
  rw [List.length_drop] at hle
  rw [htake, List.length_map, List.take_range'_of_length_ge hle]

end Numbered

/-! ## Folds that skip what they have seen -/

/-- A fold over numbered messages. -/
structure SequencedFold (σ α : Type) where
  seq : α → ℕ
  /-- The number of the message that the state waits for. -/
  next : σ → ℕ
  /-- The effect of a message that is not skipped. -/
  apply : σ → α → σ
  next_apply : ∀ state a, next (apply state a) = seq a + 1

namespace SequencedFold

variable (f : SequencedFold σ α)

/-- Folds a message, unless the state waits for a later one. -/
def fold (state : σ) (a : α) : σ :=
  if f.seq a < f.next state then state else f.apply state a

theorem next_fold (state : σ) (a : α) :
    f.next (f.fold state a) = max (f.next state) (f.seq a + 1) := by
  rw [fold]
  split
  · omega
  · rw [f.next_apply]
    omega

/-- The state is what the messages before the one it waits for amount to, each
of them applied once and in order. -/
def Follows (initial : σ) (log : List α) (state : σ) : Prop :=
  state = (log.take (f.next state)).foldl f.apply initial ∧
    f.next state ≤ log.length

variable {f} {initial state : σ} {log : List α}

theorem follows_initial (h : f.next initial = 0) (log : List α) :
    f.Follows initial log initial := by
  rw [Follows, h]
  exact ⟨rfl, Nat.zero_le _⟩

namespace Follows

/-- A log that grows does not change what was before. -/
theorem append (h : f.Follows initial log state) (more : List α) :
    f.Follows initial (log ++ more) state := by
  obtain ⟨hstate, hle⟩ := h
  refine ⟨?_, ?_⟩
  · rw [List.take_append_of_le_length hle]
    exact hstate
  · rw [List.length_append]
    omega

/-- Two states that follow a log up to the same message are the same. -/
theorem eq_of_next_eq {state' : σ} (h : f.Follows initial log state)
    (h' : f.Follows initial log state') (hnext : f.next state = f.next state') :
    state = state' := by
  rw [h.1, h'.1, hnext]

/-- A message whose predecessors have all been folded. -/
theorem fold (h : f.Follows initial log state) (hlog : Numbered f.seq log)
    {a : α} (ha : a ∈ log) (hle : f.seq a ≤ f.next state) :
    f.Follows initial log (f.fold state a) := by
  rw [SequencedFold.fold]
  split
  · exact h
  · next hseq =>
      have heq : f.seq a = f.next state := by omega
      have hget : log[f.next state]? = some a := by
        rw [← heq]
        exact hlog.getElem?_of_mem ha
      obtain ⟨hlt, hval⟩ := List.getElem?_eq_some_iff.mp hget
      rw [Follows, f.next_apply, heq]
      refine ⟨?_, hlt⟩
      rw [← List.take_append_getElem hlt, List.foldl_append, ← h.1, hval]
      rfl

/-- Replaying the log from a position that is not beyond the state brings the
state to the end of the log. -/
theorem foldl_drop (h : f.Follows initial log state)
    (hlog : Numbered f.seq log) {start : ℕ} (hstart : start ≤ f.next state) :
    f.Follows initial log ((log.drop start).foldl f.fold state) ∧
      f.next ((log.drop start).foldl f.fold state) = log.length := by
  induction hlen : log.length - start generalizing start state with
  | zero =>
      have hdrop : log.drop start = [] :=
        List.drop_eq_nil_iff.mpr (by omega)
      have hle := h.2
      rw [hdrop]
      exact ⟨h, by simp only [List.foldl_nil]; omega⟩
  | succ rest ih =>
      have hlt : start < log.length := by omega
      have hseq : f.seq log[start] = start :=
        hlog.seq_of_getElem? (List.getElem?_eq_getElem hlt)
      have hfold := h.fold hlog (List.getElem_mem hlt) (by omega)
      rw [List.drop_eq_getElem_cons hlt, List.foldl_cons]
      refine ih hfold ?_ (by omega)
      rw [next_fold, hseq]
      omega

end Follows

/-- Nothing of a numbered log is skipped when it is folded from its start. -/
theorem foldl_fold_eq (hnext : f.next initial = 0) (hlog : Numbered f.seq log) :
    log.foldl f.fold initial = log.foldl f.apply initial := by
  obtain ⟨⟨hstate, -⟩, hlength⟩ :=
    (follows_initial hnext log).foldl_drop hlog (Nat.zero_le _)
  rw [List.drop_zero] at hstate hlength
  rw [hlength, List.take_length] at hstate
  exact hstate

/-- Nothing is skipped where the numbers only grow, even if some are
missing. -/
theorem foldl_fold_of_sorted {state : σ} {items : List α}
    (h : items.Pairwise fun a b => f.seq a < f.seq b)
    (hnext : ∀ a ∈ items, f.next state ≤ f.seq a) :
    items.foldl f.fold state = items.foldl f.apply state := by
  induction items generalizing state with
  | nil => rfl
  | cons a items ih =>
      obtain ⟨hhead, hrest⟩ := List.pairwise_cons.mp h
      have happly : f.fold state a = f.apply state a :=
        if_neg (not_lt.mpr (hnext a List.mem_cons_self))
      rw [List.foldl_cons, List.foldl_cons, happly]
      refine ih hrest fun b hb => ?_
      rw [f.next_apply]
      exact hhead b hb

end SequencedFold

/-! ## What a state has folded -/

namespace SequencedFold

variable (f : SequencedFold σ α)

/-- The state is the fold of some messages of a log, in their order. -/
structure FoldedFrom (initial : σ) (log : List α) (state : σ)
    (messages : List α) : Prop where
  state_eq : state = messages.foldl f.apply initial
  mem : ∀ a ∈ messages, a ∈ log
  sorted : messages.Pairwise fun a b => f.seq a < f.seq b
  seq_lt : ∀ a ∈ messages, f.seq a < f.next state
  next_le : f.next state ≤ log.length

/-- The state is the fold of some messages of a log.  Of the messages that are
to be kept, it has passed over none. -/
def Folds (initial : σ) (log : List α) (kept : α → Prop) (state : σ) : Prop :=
  ∃ messages, f.FoldedFrom initial log state messages ∧
    ∀ a ∈ log, kept a → f.seq a < f.next state → a ∈ messages

variable {f} {initial state : σ} {log messages : List α} {kept : α → Prop}

theorem seq_lt_next_foldl {a : α} {items : List α} (ha : a ∈ items)
    (state : σ) :
    f.seq a < f.next (items.foldl f.fold state) := by
  have hmono (items : List α) (state : σ) :
      f.next state ≤ f.next (items.foldl f.fold state) := by
    induction items generalizing state with
    | nil => exact Nat.le_refl _
    | cons b rest ih =>
        refine Nat.le_trans ?_ (ih (f.fold state b))
        rw [next_fold]
        exact Nat.le_max_left _ _
  induction items generalizing state with
  | nil => exact absurd ha List.not_mem_nil
  | cons b rest ih =>
      rcases List.mem_cons.mp ha with rfl | hrest
      · refine Nat.lt_of_lt_of_le ?_ (hmono rest (f.fold state a))
        rw [next_fold]
        omega
      · exact ih hrest (f.fold state b)

namespace FoldedFrom

theorem nil (hnext : f.next initial = 0) (log : List α) :
    f.FoldedFrom initial log initial [] where
  state_eq := rfl
  mem _ ha := absurd ha List.not_mem_nil
  sorted := List.Pairwise.nil
  seq_lt _ ha := absurd ha List.not_mem_nil
  next_le := by omega

/-- A message that is not skipped. -/
theorem concat (h : f.FoldedFrom initial log state messages)
    (hlog : Numbered f.seq log) {a : α} (ha : a ∈ log)
    (hnext : f.next state ≤ f.seq a) :
    f.FoldedFrom initial log (f.apply state a) (messages ++ [a]) where
  state_eq := by rw [List.foldl_append, ← h.state_eq]; rfl
  mem b hb := by
    rcases List.mem_append.mp hb with hold | hnew
    · exact h.mem b hold
    · exact List.mem_singleton.mp hnew ▸ ha
  sorted := by
    refine List.pairwise_append.mpr
      ⟨h.sorted, List.pairwise_singleton _ _, fun b hb c hc => ?_⟩
    rw [List.mem_singleton.mp hc]
    exact Nat.lt_of_lt_of_le (h.seq_lt b hb) hnext
  seq_lt b hb := by
    rw [f.next_apply]
    rcases List.mem_append.mp hb with hold | hnew
    · have hlt := h.seq_lt b hold
      omega
    · rw [List.mem_singleton.mp hnew]
      exact Nat.lt_succ_self _
  next_le := by
    rw [f.next_apply]
    exact hlog.seq_lt_length ha

/-- Any message of the log may come. -/
theorem fold (h : f.FoldedFrom initial log state messages)
    (hlog : Numbered f.seq log) {a : α} (ha : a ∈ log) :
    ∃ more, f.FoldedFrom initial log (f.fold state a) (messages ++ more) ∧
      (f.next state ≤ f.seq a → a ∈ more) := by
  rw [SequencedFold.fold]
  split
  · next hskip =>
      exact ⟨[], by rwa [List.append_nil], fun hle => by omega⟩
  · next hnext =>
      exact ⟨[a], h.concat hlog ha (Nat.not_lt.mp hnext),
        fun _ => List.mem_singleton_self a⟩

theorem foldl (h : f.FoldedFrom initial log state messages)
    (hlog : Numbered f.seq log) {items : List α}
    (hitems : ∀ a ∈ items, a ∈ log) :
    ∃ more, f.FoldedFrom initial log (items.foldl f.fold state)
      (messages ++ more) := by
  induction items generalizing state messages with
  | nil => exact ⟨[], by rwa [List.append_nil]⟩
  | cons a rest ih =>
      obtain ⟨first, hfirst, -⟩ := h.fold hlog (hitems a List.mem_cons_self)
      obtain ⟨second, hsecond⟩ :=
        ih hfirst fun b hb => hitems b (List.mem_cons_of_mem _ hb)
      rw [List.append_assoc] at hsecond
      exact ⟨_, hsecond⟩

/-- A log that grows does not change what was folded. -/
theorem append (h : f.FoldedFrom initial log state messages)
    (more : List α) :
    f.FoldedFrom initial (log ++ more) state messages where
  state_eq := h.state_eq
  mem a ha := List.mem_append_left _ (h.mem a ha)
  sorted := h.sorted
  seq_lt := h.seq_lt
  next_le := by
    rw [List.length_append]
    exact Nat.le_trans h.next_le (Nat.le_add_right _ _)

end FoldedFrom

namespace Folds

theorem nil (hnext : f.next initial = 0) (log : List α) :
    f.Folds initial log kept initial :=
  ⟨[], FoldedFrom.nil hnext log, fun a _ _ hlt => by omega⟩

/-- A message that overtakes none of those to be kept. -/
theorem fold (h : f.Folds initial log kept state) (hlog : Numbered f.seq log)
    {a : α} (ha : a ∈ log)
    (hahead : ∀ b ∈ log, kept b → f.next state ≤ f.seq b →
      f.seq a ≤ f.seq b) :
    f.Folds initial log kept (f.fold state a) := by
  obtain ⟨messages, hfolded, hkept⟩ := h
  obtain ⟨more, hmore, hmem⟩ := hfolded.fold hlog ha
  refine ⟨_, hmore, fun b hb hbkept hlt => ?_⟩
  by_cases hold : f.seq b < f.next state
  · exact List.mem_append_left _ (hkept b hb hbkept hold)
  · have hle := hahead b hb hbkept (Nat.not_lt.mp hold)
    rw [next_fold] at hlt
    have hseq : f.seq b = f.seq a := by omega
    have hsame : b = a := by
      have hget := hlog.getElem?_of_mem hb
      rw [hseq, hlog.getElem?_of_mem ha] at hget
      exact (Option.some.inj hget).symm
    subst hsame
    exact List.mem_append_right _ (hmem (Nat.not_lt.mp hold))

/-- Replaying the log from a position that no message to be kept precedes. -/
theorem foldl_drop (h : f.Folds initial log kept state)
    (hlog : Numbered f.seq log) {start : ℕ}
    (hahead : ∀ b ∈ log, kept b → f.next state ≤ f.seq b → start ≤ f.seq b) :
    f.Folds initial log kept ((log.drop start).foldl f.fold state) := by
  induction hlen : log.length - start generalizing start state with
  | zero =>
      rw [List.drop_eq_nil_iff.mpr (by omega)]
      exact h
  | succ rest ih =>
      have hlt : start < log.length := by omega
      have hseq : f.seq log[start] = start :=
        hlog.seq_of_getElem? (List.getElem?_eq_getElem hlt)
      have hfold := h.fold hlog (List.getElem_mem hlt) (hseq.symm ▸ hahead)
      rw [List.drop_eq_getElem_cons hlt, List.foldl_cons]
      refine ih hfold (fun b hb hkept hle => ?_) (by omega)
      rw [next_fold, hseq] at hle
      omega

/-- A log that grows does not change what was folded. -/
theorem append (h : f.Folds initial log kept state) {more : List α}
    (hmore : ∀ a ∈ log ++ more, a ∈ log ∨ log.length ≤ f.seq a) :
    f.Folds initial (log ++ more) kept state := by
  obtain ⟨messages, hfolded, hkept⟩ := h
  refine ⟨messages, hfolded.append more, fun a ha hakept hlt => ?_⟩
  rcases hmore a ha with hold | hnew
  · exact hkept a hold hakept hlt
  · have hle := hfolded.next_le
    omega

end Folds

end SequencedFold

/-! ## Deliveries that leave no gap -/

/-- No position comes before its predecessors, given that those below `next`
have come. -/
def Gapless : ℕ → List ℕ → Prop
  | _, [] => True
  | next, position :: rest =>
      position ≤ next ∧ Gapless (max next (position + 1)) rest

instance : (next : ℕ) → (positions : List ℕ) →
    Decidable (Gapless next positions)
  | _, [] => .isTrue trivial
  | next, position :: rest =>
      have := instDecidableGapless (max next (position + 1)) rest
      inferInstanceAs (Decidable (_ ∧ _))

/-- The messages of a log at some positions. -/
def atPositions (log : List α) (positions : List ℕ) : List α :=
  positions.filterMap fun position => log[position]?

theorem atPositions_cons {position : ℕ} (h : position < log.length)
    (rest : List ℕ) :
    atPositions log (position :: rest) =
      log[position] :: atPositions log rest := by
  rw [atPositions, List.filterMap_cons, List.getElem?_eq_getElem h]
  rfl

theorem atPositions_append (first second : List ℕ) :
    atPositions log (first ++ second) =
      atPositions log first ++ atPositions log second :=
  List.filterMap_append

theorem mem_of_mem_atPositions {positions : List ℕ} {a : α}
    (h : a ∈ atPositions log positions) :
    a ∈ log := by
  obtain ⟨position, -, hget⟩ := List.mem_filterMap.mp h
  exact List.mem_of_getElem? hget

/-- The number behind all positions and not below `next`. -/
def behind (next : ℕ) (positions : List ℕ) : ℕ :=
  positions.foldl (fun next position => max next (position + 1)) next

theorem behind_le_iff {next bound : ℕ} {positions : List ℕ} :
    behind next positions ≤ bound ↔
      next ≤ bound ∧ ∀ p ∈ positions, p < bound := by
  induction positions generalizing next with
  | nil => simp [behind]
  | cons position rest ih =>
      have hcons : behind next (position :: rest) =
          behind (max next (position + 1)) rest :=
        rfl
      rw [hcons, ih, List.forall_mem_cons, Nat.max_le, Nat.succ_le_iff,
        and_assoc]

/-- The order and the repetition of the positions do not matter. -/
theorem behind_congr {next : ℕ} {positions others : List ℕ}
    (h : ∀ p, p ∈ others ↔ p ∈ positions) :
    behind next others = behind next positions := by
  have hle (bound : ℕ) :
      behind next others ≤ bound ↔ behind next positions ≤ bound := by
    rw [behind_le_iff, behind_le_iff]
    simp only [h]
  exact le_antisymm ((hle _).mpr le_rfl) ((hle _).mp le_rfl)

namespace SequencedFold

variable {f : SequencedFold σ α} {initial state : σ} {log : List α}

/-- The number that a state waits for depends on the positions alone. -/
theorem next_foldl_atPositions (hlog : Numbered f.seq log) (state : σ)
    {positions : List ℕ} (hpositions : ∀ p ∈ positions, p < log.length) :
    f.next ((atPositions log positions).foldl f.fold state) =
      behind (f.next state) positions := by
  induction positions generalizing state with
  | nil => rfl
  | cons position rest ih =>
      have hlt := hpositions position List.mem_cons_self
      have hseq : f.seq log[position] = position :=
        hlog.seq_of_getElem? (List.getElem?_eq_getElem hlt)
      rw [atPositions_cons hlt, List.foldl_cons,
        ih _ fun p hp => hpositions p (List.mem_cons_of_mem _ hp), next_fold,
        hseq]
      rfl

/-- A delivery without gaps is followed to its furthest message. -/
theorem Follows.foldl_atPositions (h : f.Follows initial log state)
    (hlog : Numbered f.seq log) {positions : List ℕ}
    (hpositions : ∀ p ∈ positions, p < log.length)
    (hgapless : Gapless (f.next state) positions) :
    f.Follows initial log ((atPositions log positions).foldl f.fold state) := by
  induction positions generalizing state with
  | nil => exact h
  | cons position rest ih =>
      have hlt := hpositions position List.mem_cons_self
      have hseq : f.seq log[position] = position :=
        hlog.seq_of_getElem? (List.getElem?_eq_getElem hlt)
      obtain ⟨hle, hrest⟩ := hgapless
      rw [atPositions_cons hlt, List.foldl_cons]
      refine ih (h.fold hlog (List.getElem_mem hlt) (hseq.le.trans hle))
        (fun p hp => hpositions p (List.mem_cons_of_mem _ hp)) ?_
      rw [next_fold, hseq]
      exact hrest

/-- When every message counts and none is missing in the end, the delivery had
no gap. -/
theorem gapless_of_count_eq (count : σ → ℕ)
    (happly : ∀ state, ∀ a ∈ log, count (f.apply state a) = count state + 1)
    (hlog : Numbered f.seq log) {positions : List ℕ}
    (hpositions : ∀ p ∈ positions, p < log.length)
    (hle : count state ≤ f.next state)
    (hcount : count ((atPositions log positions).foldl f.fold state) =
      f.next ((atPositions log positions).foldl f.fold state)) :
    count state = f.next state ∧ Gapless (f.next state) positions := by
  induction positions generalizing state with
  | nil => exact ⟨hcount, trivial⟩
  | cons position rest ih =>
      have hlt := hpositions position List.mem_cons_self
      have hseq : f.seq log[position] = position :=
        hlog.seq_of_getElem? (List.getElem?_eq_getElem hlt)
      have hrest : ∀ p ∈ rest, p < log.length :=
        fun p hp => hpositions p (List.mem_cons_of_mem _ hp)
      have hnext := f.next_fold state log[position]
      rw [hseq] at hnext
      rw [atPositions_cons hlt, List.foldl_cons] at hcount
      by_cases hskip : position < f.next state
      · have hfold : f.fold state log[position] = state := by
          rw [fold, hseq, if_pos hskip]
        rw [hfold] at hcount hnext
        obtain ⟨heq, hgapless⟩ := ih hrest hle hcount
        exact ⟨heq, hskip.le, hnext ▸ hgapless⟩
      · have hfold : f.fold state log[position] =
            f.apply state log[position] := by
          rw [fold, hseq, if_neg hskip]
        have hplus : count (f.fold state log[position]) = count state + 1 := by
          rw [hfold]
          exact happly _ _ (List.getElem_mem hlt)
        have hroom : count (f.fold state log[position]) ≤
            f.next (f.fold state log[position]) := by
          omega
        obtain ⟨heq, hgapless⟩ := ih hrest hroom hcount
        rw [hnext] at hgapless
        exact ⟨by omega, by omega, hgapless⟩

end SequencedFold

end Darcbench
