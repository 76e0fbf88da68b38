import Darcbench.Modules.MemoryBandwidth
import Darcbench.Support.SingleCycle
import Mathlib.Algebra.GroupWithZero.Nat

/-!
# The pointer chase

The permutation is one cycle through all slots, and the chase goes on along it
from pass to pass and from repetition to repetition.
-/

namespace Darcbench

namespace MemoryBandwidth

/-! ## The shuffle -/

theorem swapIfInBounds_perm (order : Array ℕ) (i j : ℕ) :
    (order.swapIfInBounds i j).toList.Perm order.toList := by
  rw [Array.swapIfInBounds]
  split
  · split
    · exact (Array.swap_perm _ _).toList
    · exact .refl _
  · exact .refl _

/-- The shuffle keeps the slots. -/
theorem shuffle_perm (i : ℕ) (rng : SplitMix64) (order : Array ℕ) :
    (shuffle i rng order).toList.Perm order.toList := by
  induction i generalizing rng order with
  | zero => exact .refl _
  | succ i ih =>
      rw [shuffle]
      exact (ih _ _).trans (swapIfInBounds_perm order _ _)

/-! ## The pointers -/

theorem size_foldl_link (windows : List (ℕ × ℕ)) (next : Array ℕ) :
    (windows.foldl link next).size = next.size := by
  induction windows generalizing next with
  | nil => rfl
  | cons window rest ih =>
      rw [List.foldl_cons, ih, link, Array.size_setIfInBounds]

theorem getElem?_foldl_link_of_notMem {windows : List (ℕ × ℕ)} {slot : ℕ}
    (h : slot ∉ windows.map Prod.fst) (next : Array ℕ) :
    (windows.foldl link next)[slot]? = next[slot]? := by
  induction windows generalizing next with
  | nil => rfl
  | cons window rest ih =>
      rw [List.map_cons, List.mem_cons, not_or] at h
      rw [List.foldl_cons, ih h.2, link,
        Array.getElem?_setIfInBounds_ne (Ne.symm h.1)]

/-- A pointer that is set once stays. -/
theorem getElem?_foldl_link {windows : List (ℕ × ℕ)} {slot following : ℕ}
    (hnodup : (windows.map Prod.fst).Nodup)
    (hmem : (slot, following) ∈ windows) {next : Array ℕ}
    (hslot : slot < next.size) :
    (windows.foldl link next)[slot]? = some following := by
  induction windows generalizing next with
  | nil => exact absurd hmem (by simp)
  | cons window rest ih =>
      rw [List.map_cons, List.nodup_cons] at hnodup
      rw [List.foldl_cons]
      rcases List.mem_cons.mp hmem with rfl | hrest
      · rw [getElem?_foldl_link_of_notMem hnodup.1, link,
          Array.getElem?_setIfInBounds_self_of_lt hslot]
      · refine ih hnodup.2 hrest ?_
        rwa [link, Array.size_setIfInBounds]

theorem size_successors (len : ℕ) (order : List ℕ) :
    (successors len order).size = len := by
  rw [successors]
  split
  · rw [Array.size_setIfInBounds, size_foldl_link, Array.size_replicate]
  · rw [size_foldl_link, Array.size_replicate]

/-- The windows of an order begin with all its elements but the last. -/
theorem map_fst_zip_tail (order : List ℕ) :
    (order.zip order.tail).map Prod.fst = order.dropLast := by
  induction order with
  | nil => rfl
  | cons first rest ih =>
      cases rest with
      | nil => rfl
      | cons second rest =>
          rw [List.tail_cons, List.zip_cons_cons, List.map_cons,
            List.dropLast_cons_cons]
          exact congrArg _ ih

theorem mem_zip_tail {order : List ℕ} {k : ℕ} (hk : k + 1 < order.length) :
    (order[k], order[k + 1]) ∈ order.zip order.tail := by
  refine List.mem_of_getElem? (i := k) ?_
  rw [List.getElem?_zip_eq_some, List.getElem?_tail]
  exact ⟨List.getElem?_eq_getElem _, List.getElem?_eq_getElem _⟩

/-- The pointers lead through the order. -/
theorem getElem?_successors {len : ℕ} {order : List ℕ} (hnodup : order.Nodup)
    (hlt : ∀ slot ∈ order, slot < len) {k : ℕ} (hk : k < order.length) :
    (successors len order)[order[k]]? = order[(k + 1) % order.length]? := by
  have hne : order ≠ [] := List.ne_nil_of_length_pos (Nat.zero_lt_of_lt hk)
  have hslot : order[k] < len := hlt _ (List.getElem_mem hk)
  rw [successors, List.getLast?_eq_some_getLast hne,
    List.head?_eq_some_head hne]
  dsimp only
  by_cases hend : k + 1 = order.length
  · have hlast : order.getLast hne = order[k] := by
      rw [List.getLast_eq_getElem]
      congr 1
      omega
    rw [hlast, Array.getElem?_setIfInBounds_self_of_lt, hend, Nat.mod_self,
      ← List.head?_eq_getElem?, List.head?_eq_some_head hne]
    rw [size_foldl_link, Array.size_replicate]
    exact hslot
  · have hnext : k + 1 < order.length := by omega
    have hwindows := hnodup.sublist (List.dropLast_sublist order)
    rw [← map_fst_zip_tail] at hwindows
    have hother : order.getLast hne ≠ order[k] := by
      rw [List.getLast_eq_getElem, Ne, hnodup.getElem_inj_iff]
      omega
    rw [Array.getElem?_setIfInBounds_ne hother,
      getElem?_foldl_link hwindows (mem_zip_tail hnext)
        (by rwa [Array.size_replicate]),
      Nat.mod_eq_of_lt hnext, List.getElem?_eq_getElem hnext]

/-! ## The cycle -/

/-- Where a slot points to. -/
def following (next : Array ℕ) (slot : ℕ) : ℕ :=
  next[slot]?.getD 0

/-- An array of pointers is a single cycle if they stay inside of it, and a walk
along them visits all slots and is back. -/
structure IsSingleCycle (next : Array ℕ) : Prop where
  inRange : ∀ slot < next.size, next[slot]? = some (following next slot) ∧
    following next slot < next.size
  visits : ∀ start < next.size,
    (List.iterate (following next) start next.size).Perm
      (List.range next.size)
  closes : ∀ start < next.size,
    (following next)^[next.size] start = start

/-- The pointers of the permutation lead through an order of all slots. -/
theorem exists_leadsThrough {len : ℕ} (hpos : 1 ≤ len) (hlt : len < 2 ^ 32)
    (seed : UInt64) :
    (permutation len seed).size = len ∧
      ∃ order : List ℕ, order.Perm (List.range len) ∧
        ∀ k (hk : k < order.length), (permutation len seed)[order[k]]? =
          order[(k + 1) % order.length]? := by
  by_cases hone : len < 2
  · obtain rfl : len = 1 := by omega
    have hsingle : permutation 1 seed = #[0] := by
      rw [permutation, if_pos hone]
      rfl
    refine ⟨by rw [hsingle]; rfl, [0], .refl _, fun k hk => ?_⟩
    obtain rfl : k = 0 := by simpa using hk
    rw [hsingle]
    rfl
  · have hperm := shuffle_perm (len - 1) (SplitMix64.new seed)
      (Array.range (len % 2 ^ 32))
    rw [Nat.mod_eq_of_lt hlt, Array.toList_range] at hperm
    rw [permutation, if_neg hone, Nat.mod_eq_of_lt hlt]
    refine ⟨size_successors _ _, _, hperm, fun k hk => ?_⟩
    refine getElem?_successors (hperm.nodup_iff.mpr List.nodup_range) ?_ hk
    intro slot hslot
    exact List.mem_range.mp (hperm.mem_iff.mp hslot)

theorem leadsThrough_following {next : Array ℕ} {order : List ℕ}
    (h : ∀ k (hk : k < order.length), next[order[k]]? =
      order[(k + 1) % order.length]?) :
    LeadsThrough (following next) order := by
  intro k hk
  have hnext : (k + 1) % order.length < order.length :=
    Nat.mod_lt _ (Nat.zero_lt_of_lt hk)
  rw [List.getElem?_eq_getElem hk, Option.map_some, following, h k hk,
    List.getElem?_eq_getElem hnext, Option.getD_some]

/-- The permutation of any number of slots is a single cycle. -/
theorem isSingleCycle_permutation {len : ℕ} (hpos : 1 ≤ len)
    (hlt : len < 2 ^ 32) (seed : UInt64) :
    IsSingleCycle (permutation len seed) := by
  obtain ⟨hsize, order, hperm, hnext⟩ := exists_leadsThrough hpos hlt seed
  have hleads := leadsThrough_following hnext
  have hlength : order.length = len := by
    rw [hperm.length_eq, List.length_range]
  have hmem : ∀ slot < len, slot ∈ order :=
    fun slot hslot => hperm.mem_iff.mpr (List.mem_range.mpr hslot)
  constructor
  · intro slot hslot
    obtain ⟨k, hk, rfl⟩ := List.mem_iff_getElem.mp (hmem slot (hsize ▸ hslot))
    have hback : (k + 1) % order.length < order.length :=
      Nat.mod_lt _ (Nat.zero_lt_of_lt hk)
    rw [following, hnext k hk, List.getElem?_eq_getElem hback,
      Option.getD_some, hsize]
    refine ⟨rfl, ?_⟩
    exact List.mem_range.mp (hperm.mem_iff.mp (List.getElem_mem hback))
  · intro start hstart
    have hvisits := hleads.iterate_perm (hmem start (hsize ▸ hstart))
    rw [hlength] at hvisits
    rw [hsize]
    exact hvisits.trans hperm
  · intro start hstart
    obtain ⟨k, hk⟩ := List.mem_iff_getElem?.mp (hmem start (hsize ▸ hstart))
    have hkl := (List.getElem?_eq_some_iff.mp hk).1
    have hback := hleads.iterate hkl order.length
    rw [Nat.add_mod_right, Nat.mod_eq_of_lt hkl, hk, Option.map_some,
      hlength] at hback
    rw [hsize]
    exact Option.some.inj hback

/-! ## The chase -/

theorem chase_eq {next : Array ℕ}
    (h : ∀ slot < next.size, next[slot]? = some (following next slot) ∧
      following next slot < next.size)
    (steps : ℕ) {cursor : ℕ} (hcursor : cursor < next.size) :
    chase next steps cursor =
      some (List.iterate (following next) cursor steps,
        (following next)^[steps] cursor) ∧
      (following next)^[steps] cursor < next.size := by
  induction steps generalizing cursor with
  | zero => exact ⟨rfl, hcursor⟩
  | succ steps ih =>
      obtain ⟨hslot, hfollowing⟩ := h cursor hcursor
      obtain ⟨hchase, hlast⟩ := ih hfollowing
      refine ⟨?_, hlast⟩
      rw [chase, hslot, Option.bind_eq_bind, Option.bind_some, hchase]
      rfl

/-- A pass goes on where the pass before it has stopped. -/
theorem pass_latencyRandom {e : Executed}
    (hcycle : IsSingleCycle e.state.permutation)
    (hcursor : e.state.cursor < e.state.permutation.size) (index : ℕ) :
    pass .latencyRandom e index =
      some
        { acc := e.acc + ((following e.state.permutation)^[latencyStepsPerPass]
            e.state.cursor).toUInt64
          state :=
            { e.state with
              cursor := (following e.state.permutation)^[latencyStepsPerPass]
                e.state.cursor }
          loads := e.loads ++ List.iterate (following e.state.permutation)
            e.state.cursor latencyStepsPerPass } := by
  have hsome : ¬ e.state.permutation.isEmpty = true := by
    rw [Array.isEmpty_iff_size_eq_zero]
    omega
  rw [pass, if_neg hsome,
    (chase_eq hcycle.inRange latencyStepsPerPass hcursor).1]
  rfl

/-- Some passes load consecutive slots. -/
theorem foldlM_pass {e : Executed}
    (hcycle : IsSingleCycle e.state.permutation)
    (hcursor : e.state.cursor < e.state.permutation.size)
    (indices : List ℕ) :
    ∃ acc, indices.foldlM (pass .latencyRandom) e =
      some
        { acc := acc
          state :=
            { e.state with
              cursor := (following e.state.permutation)^[
                indices.length * latencyStepsPerPass] e.state.cursor }
          loads := e.loads ++ List.iterate (following e.state.permutation)
            e.state.cursor (indices.length * latencyStepsPerPass) } := by
  induction indices generalizing e with
  | nil =>
      refine ⟨e.acc, ?_⟩
      rw [List.length_nil, Nat.zero_mul, List.iterate, List.append_nil]
      rfl
  | cons index rest ih =>
      have hlast := (chase_eq hcycle.inRange latencyStepsPerPass hcursor).2
      have hpass := pass_latencyRandom hcycle hcursor index
      obtain ⟨stop, hstop⟩ : ∃ stop, (following e.state.permutation)^[
          latencyStepsPerPass] e.state.cursor = stop := ⟨_, rfl⟩
      rw [hstop] at hlast hpass
      obtain ⟨acc, hrest⟩ := @ih
        { acc := e.acc + stop.toUInt64
          state := { e.state with cursor := stop }
          loads := e.loads ++ List.iterate (following e.state.permutation)
            e.state.cursor latencyStepsPerPass } hcycle hlast
      refine ⟨acc, ?_⟩
      rw [List.foldlM_cons, hpass, Option.bind_eq_bind, Option.bind_some,
        hrest]
      dsimp only
      rw [← hstop, List.append_assoc, ← List.iterate_add,
        ← Function.iterate_add_apply, List.length_cons, Nat.add_one_mul,
        Nat.add_comm latencyStepsPerPass]

/-- Repetitions on one working set, one after the other, with the slots that
they have loaded. -/
def executeEach (access : Access) :
    WorkingSet → List ℕ → Option (List ℕ × WorkingSet)
  | state, [] => some ([], state)
  | state, passes :: rest => do
      let done ← execute access state passes
      let (loads, final) ← executeEach access done.state rest
      some (done.loads ++ loads, final)

/-- However the passes are divided over the repetitions, the slots loaded are
those of one walk. -/
theorem executeEach_eq {state : WorkingSet}
    (hcycle : IsSingleCycle state.permutation)
    (hcursor : state.cursor < state.permutation.size) (passes : List ℕ) :
    executeEach .latencyRandom state passes =
      some (List.iterate (following state.permutation) state.cursor
          (passes.sum * latencyStepsPerPass),
        { state with
          cursor := (following state.permutation)^[
            passes.sum * latencyStepsPerPass] state.cursor }) := by
  induction passes generalizing state with
  | nil =>
      rw [List.sum_nil, Nat.zero_mul]
      rfl
  | cons first rest ih =>
      obtain ⟨acc, hexecute⟩ := @foldlM_pass ⟨0, state, []⟩ hcycle hcursor
        (List.range first)
      rw [List.length_range] at hexecute
      have hlast := (chase_eq hcycle.inRange (first * latencyStepsPerPass)
        hcursor).2
      dsimp only at hexecute
      obtain ⟨stop, hstop⟩ : ∃ stop, (following state.permutation)^[
          first * latencyStepsPerPass] state.cursor = stop := ⟨_, rfl⟩
      rw [hstop] at hlast hexecute
      have hrest := @ih { state with cursor := stop } hcycle hlast
      rw [executeEach, execute, hexecute, Option.bind_eq_bind,
        Option.bind_some]
      dsimp only
      rw [hrest, Option.bind_eq_bind, Option.bind_some]
      dsimp only
      rw [← hstop, List.nil_append, ← List.iterate_add,
        ← Function.iterate_add_apply, List.sum_cons, Nat.add_mul,
        Nat.add_comm (rest.sum * _)]

/-- The permutation is one cycle, and the chase walks along it without loading
a slot a second time before it has loaded all of them. -/
theorem chase_walks_one_cycle {len : ℕ} (hpos : 1 ≤ len) (hlt : len < 2 ^ 32)
    (seed : UInt64) :
    (permutation len seed).size = len ∧
      IsSingleCycle (permutation len seed) ∧
      ∀ state : WorkingSet, state.permutation = permutation len seed →
        state.cursor < len → ∀ passes : List ℕ,
          ∃ loads final,
            executeEach .latencyRandom state passes = some (loads, final) ∧
            loads = List.iterate (following (permutation len seed))
              state.cursor (passes.sum * latencyStepsPerPass) ∧
            ∀ first, ((loads.drop first).take len).Nodup ∧
              (first + len ≤ loads.length →
                ((loads.drop first).take len).Perm (List.range len)) := by
  obtain ⟨hsize, order, hperm, hnext⟩ := exists_leadsThrough hpos hlt seed
  have hcycle := isSingleCycle_permutation hpos hlt seed
  refine ⟨hsize, hcycle, fun state hstate hcursor passes => ?_⟩
  have hleads := leadsThrough_following hnext
  have hlength : order.length = len := by
    rw [hperm.length_eq, List.length_range]
  have hstart : state.cursor ∈ order :=
    hperm.mem_iff.mpr (List.mem_range.mpr hcursor)
  have hexecute := @executeEach_eq state (hstate ▸ hcycle)
    (by rwa [hstate, hsize]) passes
  rw [hstate] at hexecute
  refine ⟨_, _, hexecute, rfl, fun first => ⟨?_, fun hle => ?_⟩⟩
  · have hnodup := hleads.window_nodup
      (hperm.nodup_iff.mpr List.nodup_range) hstart first
      (passes.sum * latencyStepsPerPass)
    rwa [hlength] at hnodup
  · rw [List.length_iterate] at hle
    have hwindow := hleads.window_perm hstart (hlength.symm ▸ hle)
    rw [hlength] at hwindow
    exact hwindow.trans hperm

/-- The working set of three slots, and two repetitions on it. -/
theorem chase_walks_one_cycle_three :
    IsSingleCycle (permutation 3 corpusSeed) ∧
      ∃ loads final,
        executeEach .latencyRandom
          ⟨#[], #[], #[], permutation 3 corpusSeed, 0⟩ [1, 2] =
            some (loads, final) ∧
          (loads.take 3).Perm (List.range 3) := by
  obtain ⟨-, hcycle, hchase⟩ :=
    chase_walks_one_cycle (by decide : 1 ≤ 3) (by decide) corpusSeed
  obtain ⟨loads, final, hloads, heq, hwindow⟩ := hchase
    ⟨#[], #[], #[], permutation 3 corpusSeed, 0⟩ rfl (by decide) [1, 2]
  refine ⟨hcycle, loads, final, hloads, (hwindow 0).2 ?_⟩
  rw [heq, List.length_iterate]
  decide

end MemoryBandwidth

end Darcbench
