import Darcbench.Modules.PointerChase
import Darcbench.Protocol.Rounding
import Darcbench.Support.Blocks

/-!
# The sizes of the working sets

The stream of a thread should be larger than the caches, and all allocations
together should be a small share of the memory that is available.  Where both is
not possible, the memory decides, and the plan says so.
-/

namespace Darcbench

namespace MemoryBandwidth

def llcMultiple : ℕ := 4

/-- Assumed where the host reports no cache. -/
def fallbackLlcBytes : ℕ := 32 * 2 ^ 20

def minWorkingSet : ℕ := 32 * 2 ^ 20

def maxWorkingSet : ℕ := 512 * 2 ^ 20

/-- Multiple of the private cache that a thread's stream should exceed. -/
def l2Multiple : ℕ := 4

/-- Largest share of the available memory that is allocated. -/
def memoryBudgetFraction : Float := 0.25

def minCredibleMultiple : ℕ := 2

def fallbackCacheBytes : ℕ := 256 * 2 ^ 10

/-- The heaviest pattern has three live buffers. -/
def peakBuffers : ℕ := 3

def pageFloor : ℕ := 4096

/-- What is known about the machine. -/
structure MachineFacts where
  lastLevelCacheBytes : Option UInt64
  l2CacheBytes : Option UInt64
  availableBytes : Option UInt64

structure Plan where
  threads : ℕ
  singleBytes : ℕ
  /-- For each thread. -/
  multiBytes : ℕ
  cacheBytes : ℕ
  llcBytes : ℕ
  llcAssumed : Bool
  singleContaminated : Bool
  multiContaminated : Bool
  peakAllocBytes : ℕ
  deriving DecidableEq

def saturatingMul (a b : ℕ) : ℕ :=
  min (a * b) u64Max

/-- Rounds down to whole pages, by the mask of 64 bits. -/
def alignDown (bytes : ℕ) : ℕ :=
  max (bytes &&& (2 ^ 64 - 1 - (4096 - 1))) 4096

/-- Limits a number.  Limits in the wrong order are a panic. -/
def clamp (bytes low high : ℕ) : Option ℕ :=
  if low ≤ high then some (min (max bytes low) high) else none

namespace MachineFacts

def llc (facts : MachineFacts) : ℕ :=
  ((facts.lastLevelCacheBytes.map UInt64.toNat).filter (0 < ·)).getD
    fallbackLlcBytes

def l2 (facts : MachineFacts) : ℕ :=
  ((facts.l2CacheBytes.map UInt64.toNat).filter (0 < ·)).getD
    fallbackCacheBytes

/-- What may be allocated.  Unknown memory counts as constrained. -/
def budget (facts : MachineFacts) (threads : ℕ) : ℕ :=
  (facts.availableBytes.map fun available =>
    F64.Round.toU64 (F64.ofNat available.toNat * memoryBudgetFraction)).getD
      (saturatingMul minWorkingSet (saturatingMul threads peakBuffers))

end MachineFacts

/-- What each of some threads may allocate for a buffer. -/
def affordable (budget threadCount : ℕ) : ℕ :=
  budget / max (saturatingMul threadCount peakBuffers) 1

namespace Plan

/-- Chooses the sizes for a number of threads. -/
def forMachine (facts : MachineFacts) (threads : ℕ) : Option Plan := do
  let threads := max threads 1
  let llc := facts.llc
  let l2 := facts.l2
  let budget := facts.budget threads
  let aggregateTarget := saturatingMul llc llcMultiple
  let target ← clamp aggregateTarget minWorkingSet maxWorkingSet
  let singleBytes := alignDown (max (min target (affordable budget 1)) pageFloor)
  let multiBytes := alignDown
    (max (min (min (max (aggregateTarget / threads)
      (saturatingMul l2 l2Multiple)) maxWorkingSet)
        (affordable budget threads)) pageFloor)
  let credible := saturatingMul llc minCredibleMultiple
  let cache ← clamp (l2 / 2) pageFloor (min singleBytes multiBytes)
  some
    { threads := threads
      singleBytes := singleBytes
      multiBytes := multiBytes
      cacheBytes := alignDown (max cache pageFloor)
      llcBytes := llc
      llcAssumed := facts.lastLevelCacheBytes.isNone
      singleContaminated := singleBytes < credible
      multiContaminated := saturatingMul multiBytes threads < credible
      peakAllocBytes := max (saturatingMul singleBytes peakBuffers)
        (saturatingMul (saturatingMul multiBytes peakBuffers) threads) }

/-- The working set of one thread. -/
def bytes (plan : Plan) (access : Access) (threads : ℕ) : ℕ :=
  if access.isCacheResident then plan.cacheBytes
  else if threads ≤ 1 then plan.singleBytes
  else plan.multiBytes

/-- The numbers of threads on which a pattern runs. -/
def shapes (plan : Plan) (access : Access) : List ℕ :=
  if access.hasMultiShape then [1, plan.threads] else [1]

end Plan

/-! ## What a working set allocates -/

/-- How far the preparation of a working set is. -/
inductive Moment
  | filled
  | ordering
  | linking
  | prepared

/-- The bytes that one thread holds at a moment: the payload buffers, the visit
order, and the permutation that is built from it. -/
def allocatedAt (access : Access) (bytes : ℕ) : Moment → ℕ
  | .filled => payload
  | .ordering => payload + entries
  | .linking => payload + entries + entries
  | .prepared => payload + entries
where
  payload : ℕ := access.buffers * (max (bytes / elem) 1 * elem)
  entries : ℕ := access.permutationEntries bytes * indexBytes

/-! ## The property of a plan -/

/-- A plan is affordable, and credible unless it says otherwise. -/
structure Plan.IsSound (plan : Plan) (facts : MachineFacts) : Prop where
  affordable : plan.peakAllocBytes ≤
    max (facts.budget plan.threads) (3 * 4096 * plan.threads)
  allocates : ∀ access, ∀ threads ∈ plan.shapes access, ∀ moment,
    threads * allocatedAt access (plan.bytes access threads) moment ≤
      plan.peakAllocBytes
  inRange : ∀ access, ∀ threads ∈ plan.shapes access, ∀ seed passes,
    (execute access (WorkingSet.prepare access (plan.bytes access threads)
      seed) passes).isSome = true
  credible : plan.multiContaminated = false →
    2 * facts.llc ≤ plan.threads * plan.multiBytes ∧
      facts.l2 < plan.multiBytes

/-- The largest working set of whole pages that the memory and the ceiling
allow a thread. -/
def largestSlice (facts : MachineFacts) (threads : ℕ) : ℕ :=
  alignDown (max (min maxWorkingSet (MemoryBandwidth.affordable
    (facts.budget threads) threads)) pageFloor)

/-! ## Rounding -/

theorem alignDown_eq {bytes : ℕ} (h : bytes < 2 ^ 64) :
    alignDown bytes = max (bytes / 4096 * 4096) 4096 :=
  congrArg (max · 4096) (@and_mask_eq bytes h 12 (by decide))

/-- A slice of whole pages, at least one. -/
theorem alignDown_spec {bytes : ℕ} (hlow : 4096 ≤ bytes)
    (h : bytes < 2 ^ 64) :
    alignDown bytes ≤ bytes ∧ bytes < alignDown bytes + 4096 ∧
      4096 ≤ alignDown bytes ∧ 4096 ∣ alignDown bytes := by
  rw [alignDown_eq h]
  refine ⟨by omega, by omega, le_max_right _ _, ?_⟩
  rcases max_cases (bytes / 4096 * 4096) 4096 with ⟨h, -⟩ | ⟨h, -⟩ <;> rw [h]
  exact dvd_mul_left _ _

/-! ## The passes -/

/-- What a pattern needs of a working set to stay inside of its buffers. -/
def Fits (access : Access) (state : WorkingSet) : Prop :=
  match access with
  | .sequentialRead | .cacheRead => True
  | .sequentialWrite | .triad => 0 < state.a.size
  | .sequentialCopy => state.a.size = state.b.size ∧ 0 < state.b.size
  | .randomRead => ∀ slot ∈ state.permutation.toList, slot < state.a.size
  | .latencyRandom =>
      IsSingleCycle state.permutation ∧
        state.cursor < state.permutation.size

theorem isSome_gather {a : Array UInt64} {slots : List ℕ}
    (h : ∀ slot ∈ slots, slot < a.size) (sum : UInt64) :
    (slots.foldlM (fun sum index => (a[index]?).map (sum + ·)) sum).isSome =
      true := by
  induction slots generalizing sum with
  | nil => rfl
  | cons slot rest ih =>
      have hslot := h slot List.mem_cons_self
      rw [List.foldlM_cons, Array.getElem?_eq_getElem hslot, Option.map_some,
        Option.bind_eq_bind, Option.bind_some]
      exact ih (fun other hother => h other (List.mem_cons_of_mem _ hother)) _

theorem fits_advance {state : WorkingSet}
    (hcycle : IsSingleCycle state.permutation) {stop : ℕ}
    (h : stop < state.permutation.size) :
    Fits .latencyRandom { state with cursor := stop } :=
  ⟨hcycle, h⟩

theorem exists_pass_latencyRandom {e : Executed}
    (hcycle : IsSingleCycle e.state.permutation)
    (hcursor : e.state.cursor < e.state.permutation.size) (index : ℕ) :
    ∃ after, pass .latencyRandom e index = some after ∧
      Fits .latencyRandom after.state := by
  have hlast := (chase_eq hcycle.inRange latencyStepsPerPass hcursor).2
  exact ⟨_, pass_latencyRandom hcycle hcursor index,
    fits_advance hcycle hlast⟩

/-- A pass stays inside of the buffers, and leaves them as the next needs
them. -/
theorem exists_pass {access : Access} {e : Executed}
    (h : Fits access e.state) (index : ℕ) :
    ∃ after, pass access e index = some after ∧ Fits access after.state := by
  cases access with
  | sequentialRead => exact ⟨_, rfl, trivial⟩
  | cacheRead => exact ⟨_, rfl, trivial⟩
  | sequentialWrite =>
      have hsize : 0 < (Array.replicate e.state.a.size
          (index.toUInt64 ||| 1)).size := by
        rw [Array.size_replicate]
        exact h
      rw [pass, Array.getElem?_eq_getElem hsize]
      exact ⟨_, rfl, hsize⟩
  | sequentialCopy =>
      obtain ⟨hsize, hpos⟩ := h
      rw [pass, if_pos hsize, Array.getElem?_eq_getElem hpos]
      exact ⟨_, rfl, rfl, hpos⟩
  | triad =>
      have hsize : 0 < (triad e.state).size := by
        rw [triad, Array.size_mapIdx]
        exact h
      rw [pass, Array.getElem?_eq_getElem hsize]
      exact ⟨_, rfl, hsize⟩
  | randomRead =>
      obtain ⟨sum, hsum⟩ := Option.isSome_iff_exists.mp
        (isSome_gather h 0)
      rw [pass, gather, hsum]
      exact ⟨_, rfl, h⟩
  | latencyRandom =>
      obtain ⟨hcycle, hcursor⟩ := h
      exact exists_pass_latencyRandom hcycle hcursor index

theorem isSome_execute {access : Access} {state : WorkingSet}
    (h : Fits access state) (passes : ℕ) :
    (execute access state passes).isSome = true := by
  have hall : ∀ (indices : List ℕ) (e : Executed), Fits access e.state →
      (indices.foldlM (pass access) e).isSome = true := by
    intro indices
    induction indices with
    | nil => intro e _; rfl
    | cons index rest ih =>
        intro e he
        obtain ⟨after, hpass, hafter⟩ := exists_pass he index
        rw [List.foldlM_cons, hpass]
        exact ih after hafter
  exact hall _ _ h

theorem permutation_prepare {access : Access} {bytes : ℕ}
    (h : access.permutationEntries bytes ≠ 0) (seed : UInt64) :
    (WorkingSet.prepare access bytes seed).permutation =
      permutation (access.permutationEntries bytes) seed := by
  rw [WorkingSet.prepare]
  dsimp only
  split
  · next hzero => exact absurd hzero h
  · rfl

theorem IsSingleCycle.lt_of_mem {next : Array ℕ} (h : IsSingleCycle next)
    {slot : ℕ} (hslot : slot ∈ next.toList) : slot < next.size := by
  obtain ⟨i, hi, rfl⟩ := List.mem_iff_getElem.mp hslot
  rw [Array.length_toList] at hi
  obtain ⟨heq, hlt⟩ := h.inRange i hi
  rw [Array.getElem?_eq_getElem hi] at heq
  rw [Array.getElem_toList, Option.some.inj heq]
  exact hlt

/-- A prepared working set has all that its pattern needs. -/
theorem fits_prepare (access : Access) {bytes : ℕ} (h : bytes < 2 ^ 34)
    (seed : UInt64) : Fits access (WorkingSet.prepare access bytes seed) := by
  have helements : 1 ≤ max (bytes / elem) 1 := le_max_right _ _
  cases access with
  | sequentialRead => trivial
  | cacheRead => trivial
  | sequentialWrite =>
      change 0 < (Array.replicate _ _).size
      rwa [Array.size_replicate]
  | sequentialCopy =>
      change (Array.replicate _ _).size = (Array.replicate _ _).size ∧
        0 < (Array.replicate _ _).size
      rw [Array.size_replicate, Array.size_replicate]
      exact ⟨rfl, helements⟩
  | triad =>
      change 0 < (Array.replicate _ _).size
      rwa [Array.size_replicate]
  | randomRead =>
      have hlt : max (bytes / elem) 1 < 2 ^ 32 := by
        rw [elem]
        omega
      have hne : Access.randomRead.permutationEntries bytes ≠ 0 :=
        Nat.ne_of_gt helements
      obtain ⟨hsize, -⟩ := exists_leadsThrough helements hlt seed
      have hcycle := isSingleCycle_permutation helements hlt seed
      have hbuffer : (WorkingSet.prepare .randomRead bytes seed).a.size =
          max (bytes / elem) 1 :=
        Array.size_replicate
      rw [Fits, permutation_prepare hne, hbuffer]
      intro slot hslot
      exact hsize ▸ hcycle.lt_of_mem hslot
  | latencyRandom =>
      have hpos : 1 ≤ max (bytes / indexBytes) 1 := le_max_right _ _
      have hlt : max (bytes / indexBytes) 1 < 2 ^ 32 := by
        rw [indexBytes]
        omega
      have hne : Access.latencyRandom.permutationEntries bytes ≠ 0 :=
        Nat.ne_of_gt hpos
      obtain ⟨hsize, -⟩ := exists_leadsThrough hpos hlt seed
      rw [Fits, permutation_prepare hne]
      refine ⟨isSingleCycle_permutation hpos hlt seed, ?_⟩
      exact hpos.trans_eq hsize.symm

/-! ## The allocations -/

/-- No pattern holds more than three buffers at any moment. -/
theorem allocatedAt_le (access : Access) {bytes : ℕ} (hdvd : 4096 ∣ bytes)
    (hpos : 4096 ≤ bytes) (moment : Moment) :
    allocatedAt access bytes moment ≤ 3 * bytes := by
  obtain ⟨pages, rfl⟩ := hdvd
  cases access <;> cases moment <;>
    simp only [allocatedAt, allocatedAt.payload, allocatedAt.entries,
      Access.buffers, Access.permutationEntries, elem, indexBytes] <;>
    omega

theorem allocatedAt_triad {bytes : ℕ} (hdvd : 4096 ∣ bytes)
    (hpos : 4096 ≤ bytes) : allocatedAt .triad bytes .filled = 3 * bytes := by
  obtain ⟨pages, rfl⟩ := hdvd
  simp only [allocatedAt, allocatedAt.payload, Access.buffers, elem]
  omega

/-! ## The sizes -/

theorem saturatingMul_le (a b : ℕ) : saturatingMul a b ≤ u64Max :=
  min_le_right _ _

theorem saturatingMul_le_mul (a b : ℕ) : saturatingMul a b ≤ a * b :=
  min_le_left _ _

/-- What the threads can afford together is the budget. -/
theorem mul_affordable_le (budget threads : ℕ) (h : threads * 3 ≤ u64Max) :
    3 * threads * affordable budget threads ≤ budget := by
  have heq : saturatingMul threads peakBuffers = threads * 3 :=
    min_eq_left h
  rw [affordable, heq]
  by_cases hzero : threads = 0
  · rw [hzero]
    omega
  · rw [max_eq_left (by omega), Nat.mul_comm 3]
    exact Nat.mul_div_le _ _

/-- A slice that is limited by the ceiling and by what is affordable, rounded
down to whole pages. -/
def sliceOf (wanted budget threads : ℕ) : ℕ :=
  alignDown (max (min (min wanted maxWorkingSet) (affordable budget threads))
    pageFloor)

theorem sliceOf_spec (wanted budget threads : ℕ) :
    sliceOf wanted budget threads ≤ maxWorkingSet ∧
      4096 ≤ sliceOf wanted budget threads ∧
      4096 ∣ sliceOf wanted budget threads ∧
      sliceOf wanted budget threads ≤
        max (affordable budget threads) 4096 := by
  have hmost : max (min (min wanted maxWorkingSet)
      (affordable budget threads)) pageFloor ≤ maxWorkingSet :=
    max_le ((min_le_left _ _).trans (min_le_right _ _)) (by decide)
  obtain ⟨hle, -, hlow, hdvd⟩ := alignDown_spec
    (le_max_right (min (min wanted maxWorkingSet)
      (affordable budget threads)) pageFloor)
    (hmost.trans_lt (by decide))
  exact ⟨hle.trans hmost, hlow, hdvd,
    hle.trans (max_le_max (min_le_right _ _) le_rfl)⟩

/-- All buffers of all threads together stay within the budget, or are a page
each. -/
theorem mul_sliceOf_le {threads : ℕ} (h : threads * 3 ≤ u64Max)
    (wanted budget : ℕ) :
    3 * threads * sliceOf wanted budget threads ≤
      max budget (3 * 4096 * threads) := by
  obtain ⟨-, -, -, hle⟩ := sliceOf_spec wanted budget threads
  have hbudget := mul_affordable_le budget threads h
  have hmul := Nat.mul_le_mul_left (3 * threads) hle
  rw [← Nat.mul_max_mul_left] at hmul
  omega

/-- The slice that a thread gets is the largest, unless less is wanted. -/
theorem sliceOf_eq {wanted budget threads : ℕ}
    (h : min maxWorkingSet (affordable budget threads) ≤ wanted) :
    sliceOf wanted budget threads =
      alignDown (max (min maxWorkingSet (affordable budget threads))
        pageFloor) := by
  rw [sliceOf, min_assoc, min_eq_right h]

namespace MachineFacts

theorem llc_le (facts : MachineFacts) : facts.llc ≤ u64Max := by
  rw [llc]
  cases facts.lastLevelCacheBytes with
  | none => decide
  | some bytes =>
      rw [Option.map_some]
      by_cases hpos : 0 < bytes.toNat
      · rw [Option.filter_some_pos (by simpa using hpos)]
        exact toNat_le_u64Max bytes
      · rw [Option.filter_some_neg (by simpa using hpos)]
        decide

theorem budget_le (facts : MachineFacts) (threads : ℕ) :
    facts.budget threads ≤ u64Max := by
  rw [budget]
  cases facts.availableBytes with
  | none => exact saturatingMul_le _ _
  | some available => exact toNat_le_u64Max _

end MachineFacts

/-- What a plan is made of. -/
structure Plan.IsSized (plan : Plan) (facts : MachineFacts) : Prop where
  threads_pos : 1 ≤ plan.threads
  singleBytes_eq : plan.singleBytes = sliceOf
    (max (saturatingMul facts.llc llcMultiple) minWorkingSet)
    (facts.budget plan.threads) 1
  multiBytes_eq : plan.multiBytes = sliceOf
    (max (saturatingMul facts.llc llcMultiple / plan.threads)
      (saturatingMul facts.l2 l2Multiple))
    (facts.budget plan.threads) plan.threads
  page_le_cacheBytes : 4096 ≤ plan.cacheBytes
  dvd_cacheBytes : 4096 ∣ plan.cacheBytes
  cacheBytes_le : plan.cacheBytes ≤ min plan.singleBytes plan.multiBytes
  multiContaminated_eq : plan.multiContaminated =
    decide (saturatingMul plan.multiBytes plan.threads <
      saturatingMul facts.llc minCredibleMultiple)
  peakAllocBytes_eq : plan.peakAllocBytes =
    max (saturatingMul plan.singleBytes peakBuffers)
      (saturatingMul (saturatingMul plan.multiBytes peakBuffers) plan.threads)

/-- There is a plan for every machine and every number of threads. -/
theorem exists_forMachine (facts : MachineFacts) (count : ℕ) :
    ∃ plan, Plan.forMachine facts count = some plan ∧
      plan.threads = max count 1 ∧ plan.IsSized facts := by
  obtain ⟨single, hsingle⟩ : ∃ single, sliceOf
      (max (saturatingMul facts.llc llcMultiple) minWorkingSet)
      (facts.budget (max count 1)) 1 = single := ⟨_, rfl⟩
  obtain ⟨multi, hmulti⟩ : ∃ multi, sliceOf
      (max (saturatingMul facts.llc llcMultiple / max count 1)
        (saturatingMul facts.l2 l2Multiple))
      (facts.budget (max count 1)) (max count 1) = multi := ⟨_, rfl⟩
  have hsinglePage : 4096 ≤ single :=
    hsingle ▸ (sliceOf_spec _ _ _).2.1
  have hmultiPage : 4096 ≤ multi :=
    hmulti ▸ (sliceOf_spec _ _ _).2.1
  have hsingleMost : single ≤ maxWorkingSet :=
    hsingle ▸ (sliceOf_spec _ _ _).1
  have hlimits : pageFloor ≤ min single multi :=
    le_min hsinglePage hmultiPage
  have hcache := min_le_right (max (facts.l2 / 2) pageFloor) (min single multi)
  have hpage : max (min (max (facts.l2 / 2) pageFloor) (min single multi))
      pageFloor ≤ min single multi :=
    max_le hcache hlimits
  obtain ⟨hle, -, hlow, hdvd⟩ := alignDown_spec
    (le_max_right (min (max (facts.l2 / 2) pageFloor) (min single multi))
      pageFloor)
    ((hpage.trans (min_le_left _ _)).trans_lt
      (hsingleMost.trans_lt (by decide)))
  refine ⟨
    { threads := max count 1
      singleBytes := single
      multiBytes := multi
      cacheBytes := alignDown (max (min (max (facts.l2 / 2) pageFloor)
        (min single multi)) pageFloor)
      llcBytes := facts.llc
      llcAssumed := facts.lastLevelCacheBytes.isNone
      singleContaminated :=
        single < saturatingMul facts.llc minCredibleMultiple
      multiContaminated := saturatingMul multi (max count 1) <
        saturatingMul facts.llc minCredibleMultiple
      peakAllocBytes := max (saturatingMul single peakBuffers)
        (saturatingMul (saturatingMul multi peakBuffers) (max count 1)) },
    ?_, rfl, ⟨le_max_right _ _, hsingle.symm, hmulti.symm, hlow, hdvd,
      hle.trans hpage, rfl, rfl⟩⟩
  rw [Plan.forMachine, clamp, if_pos (by decide), Option.bind_eq_bind,
    Option.bind_some]
  change (clamp (facts.l2 / 2) pageFloor (min
    (sliceOf (max (saturatingMul facts.llc llcMultiple) minWorkingSet)
      (facts.budget (max count 1)) 1)
    (sliceOf (max (saturatingMul facts.llc llcMultiple / max count 1)
      (saturatingMul facts.l2 l2Multiple))
        (facts.budget (max count 1)) (max count 1)))).bind _ = _
  rw [hsingle, hmulti, clamp, if_pos hlimits, Option.bind_some]
  subst hsingle hmulti
  rfl

namespace Plan.IsSized

variable {plan : Plan} {facts : MachineFacts} (h : plan.IsSized facts)

include h

theorem single_spec :
    plan.singleBytes ≤ maxWorkingSet ∧ 4096 ≤ plan.singleBytes ∧
      4096 ∣ plan.singleBytes := by
  rw [h.singleBytes_eq]
  obtain ⟨hmost, hlow, hdvd, -⟩ := sliceOf_spec
    (max (saturatingMul facts.llc llcMultiple) minWorkingSet)
    (facts.budget plan.threads) 1
  exact ⟨hmost, hlow, hdvd⟩

theorem multi_spec :
    plan.multiBytes ≤ maxWorkingSet ∧ 4096 ≤ plan.multiBytes ∧
      4096 ∣ plan.multiBytes := by
  rw [h.multiBytes_eq]
  obtain ⟨hmost, hlow, hdvd, -⟩ := sliceOf_spec
    (max (saturatingMul facts.llc llcMultiple / plan.threads)
      (saturatingMul facts.l2 l2Multiple))
    (facts.budget plan.threads) plan.threads
  exact ⟨hmost, hlow, hdvd⟩

theorem mul_single_le :
    3 * plan.singleBytes ≤
      max (facts.budget plan.threads) (3 * 4096 * plan.threads) := by
  have hle := mul_sliceOf_le (by decide : 1 * 3 ≤ u64Max)
    (max (saturatingMul facts.llc llcMultiple) minWorkingSet)
    (facts.budget plan.threads)
  rw [← h.singleBytes_eq] at hle
  have hpos := h.threads_pos
  omega

theorem mul_multi_le (hfits : plan.threads * 3 ≤ u64Max) :
    3 * plan.threads * plan.multiBytes ≤
      max (facts.budget plan.threads) (3 * 4096 * plan.threads) := by
  have hle := mul_sliceOf_le hfits
    (max (saturatingMul facts.llc llcMultiple / plan.threads)
      (saturatingMul facts.l2 l2Multiple)) (facts.budget plan.threads)
  rwa [← h.multiBytes_eq] at hle

/-- The peak is within the budget, or a page for each buffer. -/
theorem peakAllocBytes_le :
    plan.peakAllocBytes ≤
      max (facts.budget plan.threads) (3 * 4096 * plan.threads) := by
  rw [h.peakAllocBytes_eq]
  refine max_le ?_ ?_
  · have hle := h.mul_single_le
    exact (saturatingMul_le_mul _ _).trans ((Nat.mul_comm _ _).le.trans hle)
  · by_cases hfits : plan.threads * 3 ≤ u64Max
    · refine le_trans ?_ (h.mul_multi_le hfits)
      calc
        saturatingMul (saturatingMul plan.multiBytes peakBuffers)
            plan.threads ≤
            saturatingMul plan.multiBytes peakBuffers * plan.threads :=
          saturatingMul_le_mul _ _
        _ ≤ plan.multiBytes * peakBuffers * plan.threads :=
          Nat.mul_le_mul_right _ (saturatingMul_le_mul _ _)
        _ = 3 * plan.threads * plan.multiBytes := by
          rw [peakBuffers, Nat.mul_comm plan.multiBytes, Nat.mul_assoc,
            Nat.mul_comm plan.multiBytes, Nat.mul_assoc]
    · have hlarge := saturatingMul_le
        (saturatingMul plan.multiBytes peakBuffers) plan.threads
      omega

/-- Where the bytes of all threads can be counted, the peak has room for the
three buffers of each. -/
theorem mul_multi_le_peakAllocBytes
    (hfits : 3 * 4096 * plan.threads ≤ u64Max) :
    plan.threads * (3 * plan.multiBytes) ≤ plan.peakAllocBytes := by
  have hbudget := facts.budget_le plan.threads
  have hmulti := h.mul_multi_le (by omega)
  have heq : plan.threads * (3 * plan.multiBytes) =
      plan.multiBytes * peakBuffers * plan.threads := by
    rw [peakBuffers, Nat.mul_comm plan.threads, Nat.mul_comm 3]
  have hsame : 3 * plan.threads * plan.multiBytes =
      plan.threads * (3 * plan.multiBytes) := by
    rw [Nat.mul_comm 3, Nat.mul_assoc]
  have hall : plan.multiBytes * peakBuffers * plan.threads ≤ u64Max := by
    rw [← heq, ← hsame]
    omega
  have hone : plan.multiBytes * peakBuffers ≤ u64Max :=
    (Nat.le_mul_of_pos_right _ h.threads_pos).trans hall
  rw [h.peakAllocBytes_eq, heq]
  refine le_max_of_le_right ?_
  rw [saturatingMul, saturatingMul, min_eq_left hone, min_eq_left hall]

theorem mul_single_le_peakAllocBytes :
    3 * plan.singleBytes ≤ plan.peakAllocBytes := by
  have hmost := h.single_spec.1
  have hfits : plan.singleBytes * peakBuffers ≤ u64Max :=
    (Nat.mul_le_mul_right peakBuffers hmost).trans (by decide)
  rw [h.peakAllocBytes_eq, Nat.mul_comm]
  exact le_max_of_le_left (min_eq_left hfits).ge

/-- The working set of a thread is made of whole pages, and is no larger than
that of its shape. -/
theorem bytes_spec (access : Access) (threads : ℕ) :
    4096 ∣ plan.bytes access threads ∧ 4096 ≤ plan.bytes access threads ∧
      plan.bytes access threads ≤
        if threads ≤ 1 then plan.singleBytes else plan.multiBytes := by
  obtain ⟨-, hsinglePage, hsingleDvd⟩ := h.single_spec
  obtain ⟨-, hmultiPage, hmultiDvd⟩ := h.multi_spec
  have hcache := h.cacheBytes_le
  rw [Plan.bytes]
  by_cases hresident : access.isCacheResident = true
  · rw [if_pos hresident]
    refine ⟨h.dvd_cacheBytes, h.page_le_cacheBytes, ?_⟩
    split_ifs
    · exact hcache.trans (min_le_left _ _)
    · exact hcache.trans (min_le_right _ _)
  · rw [if_neg hresident]
    split_ifs
    · exact ⟨hsingleDvd, hsinglePage, le_rfl⟩
    · exact ⟨hmultiDvd, hmultiPage, le_rfl⟩

theorem bytes_lt (access : Access) (threads : ℕ) :
    plan.bytes access threads < 2 ^ 34 := by
  have hmost : (if threads ≤ 1 then plan.singleBytes else plan.multiBytes) ≤
      maxWorkingSet := by
    split_ifs
    · exact h.single_spec.1
    · exact h.multi_spec.1
  exact ((h.bytes_spec access threads).2.2.trans hmost).trans_lt (by decide)

theorem allocates (hfits : 3 * 4096 * plan.threads ≤ u64Max)
    (access : Access) {threads : ℕ} (hshape : threads ∈ plan.shapes access)
    (moment : Moment) :
    threads * allocatedAt access (plan.bytes access threads) moment ≤
      plan.peakAllocBytes := by
  obtain ⟨hdvd, hpage, hle⟩ := h.bytes_spec access threads
  have hbytes := (allocatedAt_le access hdvd hpage moment).trans
    (Nat.mul_le_mul_left 3 hle)
  have hthreads : threads = 1 ∨ threads = plan.threads := by
    rw [Plan.shapes] at hshape
    split_ifs at hshape
    · simpa using hshape
    · exact .inl (by simpa using hshape)
  by_cases hone : threads ≤ 1
  · rw [if_pos hone] at hbytes
    have hpeak := h.mul_single_le_peakAllocBytes
    have hpos := h.threads_pos
    obtain rfl : threads = 1 := by omega
    omega
  · rw [if_neg hone] at hbytes
    obtain rfl : threads = plan.threads := by omega
    exact (Nat.mul_le_mul_left _ hbytes).trans
      (h.mul_multi_le_peakAllocBytes hfits)

/-- A cache that no affordable slice exceeds leaves the largest slice. -/
theorem multiBytes_eq_of_le
    (hle : largestSlice facts plan.threads ≤ facts.l2) :
    plan.multiBytes = largestSlice facts plan.threads := by
  rw [h.multiBytes_eq, sliceOf_eq, largestSlice]
  refine le_max_of_le_right ?_
  have hmost : max (min maxWorkingSet (MemoryBandwidth.affordable
      (facts.budget plan.threads) plan.threads)) pageFloor ≤ maxWorkingSet :=
    max_le (min_le_left _ _) (by decide)
  obtain ⟨-, hlt, hlow, -⟩ := alignDown_spec
    (le_max_right (min maxWorkingSet (MemoryBandwidth.affordable
      (facts.budget plan.threads) plan.threads)) pageFloor)
    (hmost.trans_lt (by decide))
  have hslice : max (min maxWorkingSet (MemoryBandwidth.affordable
      (facts.budget plan.threads) plan.threads)) pageFloor <
        facts.l2 + 4096 :=
    hlt.trans_le (Nat.add_le_add_right hle _)
  have hpage : 4096 ≤ facts.l2 := hlow.trans hle
  rw [saturatingMul, l2Multiple]
  refine le_min ?_ ?_
  · have := le_max_left (min maxWorkingSet (MemoryBandwidth.affordable
      (facts.budget plan.threads) plan.threads)) pageFloor
    omega
  · exact (min_le_left _ _).trans (by decide)

/-- A cache that the largest slice exceeds is exceeded by the slice. -/
theorem l2_lt_multiBytes
    (hlt : facts.l2 < largestSlice facts plan.threads) :
    facts.l2 < plan.multiBytes := by
  by_cases hwanted : min maxWorkingSet (MemoryBandwidth.affordable
      (facts.budget plan.threads) plan.threads) ≤
      max (saturatingMul facts.llc llcMultiple / plan.threads)
        (saturatingMul facts.l2 l2Multiple)
  · rwa [h.multiBytes_eq, sliceOf_eq hwanted]
  · have hless : max (saturatingMul facts.llc llcMultiple / plan.threads)
        (saturatingMul facts.l2 l2Multiple) <
        min maxWorkingSet (MemoryBandwidth.affordable
          (facts.budget plan.threads) plan.threads) :=
      not_le.mp hwanted
    have hceiling : max (saturatingMul facts.llc llcMultiple / plan.threads)
        (saturatingMul facts.l2 l2Multiple) ≤ maxWorkingSet :=
      hless.le.trans (min_le_left _ _)
    have hmulti : plan.multiBytes = alignDown
        (max (max (saturatingMul facts.llc llcMultiple / plan.threads)
          (saturatingMul facts.l2 l2Multiple)) pageFloor) := by
      rw [h.multiBytes_eq, sliceOf, min_eq_left hceiling,
        min_eq_left (hless.le.trans (min_le_right _ _))]
    obtain ⟨-, hnear, hlow, -⟩ := alignDown_spec
      (le_max_right (max (saturatingMul facts.llc llcMultiple / plan.threads)
        (saturatingMul facts.l2 l2Multiple)) pageFloor)
      ((max_le hceiling (by decide : pageFloor ≤ maxWorkingSet)).trans_lt
        (by decide))
    rw [← hmulti] at hnear hlow
    have hfour : saturatingMul facts.l2 l2Multiple = facts.l2 * 4 := by
      have hsmall := (le_max_right _ _).trans hceiling
      rw [saturatingMul, l2Multiple] at hsmall ⊢
      refine min_eq_left ?_
      by_contra hover
      rw [min_eq_right (not_le.mp hover).le] at hsmall
      exact absurd hsmall (by decide)
    have hwant : facts.l2 * 4 <
        plan.multiBytes + 4096 := by
      rw [← hfour]
      exact ((le_max_right _ _).trans (le_max_left _ _)).trans_lt hnear
    omega

/-- What the flag says, where the bytes of all threads can be counted. -/
theorem multiContaminated_eq_false_iff
    (hfits : 3 * 4096 * plan.threads ≤ u64Max) :
    plan.multiContaminated = false ↔
      2 * facts.llc ≤ plan.threads * plan.multiBytes := by
  have hbudget := facts.budget_le plan.threads
  have hmulti := h.mul_multi_le (by omega)
  have hthree : 3 * (plan.threads * plan.multiBytes) ≤ u64Max := by
    rw [← Nat.mul_assoc]
    omega
  have hpos : 1 ≤ plan.threads * plan.multiBytes :=
    Nat.mul_pos h.threads_pos
      (Nat.zero_lt_of_lt h.multi_spec.2.1)
  rw [h.multiContaminated_eq, decide_eq_false_iff_not, saturatingMul,
    saturatingMul, minCredibleMultiple, Nat.mul_comm plan.multiBytes,
    Nat.mul_comm facts.llc]
  omega

end Plan.IsSized

/-- A plan is sound exactly if the bytes of all threads can be counted in 64
bits, and the largest slice that the memory and the ceiling allow a thread
exceeds its private cache, or is flagged. -/
theorem isSound_iff {plan : Plan} {facts : MachineFacts}
    (h : plan.IsSized facts) :
    plan.IsSound facts ↔
      3 * 4096 * plan.threads ≤ u64Max ∧
        (facts.l2 < largestSlice facts plan.threads ∨
          plan.threads * largestSlice facts plan.threads <
            2 * facts.llc) := by
  constructor
  · intro hsound
    have hfits : 3 * 4096 * plan.threads ≤ u64Max := by
      by_contra hover
      have hmany : ¬ plan.threads ≤ 1 := by
        intro hone
        exact hover ((Nat.mul_le_mul_left _ hone).trans (by decide))
      have htriad := hsound.allocates .triad plan.threads (by
        rw [Plan.shapes, if_pos (by decide)]
        exact List.mem_cons_of_mem _ List.mem_cons_self) .filled
      have hbytes : plan.bytes .triad plan.threads = plan.multiBytes := by
        rw [Plan.bytes, if_neg (by decide), if_neg hmany]
      obtain ⟨-, hpage, hdvd⟩ := h.multi_spec
      rw [hbytes, allocatedAt_triad hdvd hpage] at htriad
      have hpeak : plan.peakAllocBytes ≤ u64Max := by
        rw [h.peakAllocBytes_eq]
        exact max_le (saturatingMul_le _ _) (saturatingMul_le _ _)
      have hall := Nat.mul_le_mul_left plan.threads
        (Nat.mul_le_mul_left 3 hpage)
      omega
    refine ⟨hfits, ?_⟩
    by_cases hlt : facts.l2 < largestSlice facts plan.threads
    · exact .inl hlt
    · refine .inr ?_
      by_contra hcredible
      have hslice := h.multiBytes_eq_of_le (not_lt.mp hlt)
      have hflag := (h.multiContaminated_eq_false_iff hfits).mpr
        (hslice ▸ not_lt.mp hcredible)
      exact hlt (hslice ▸ (hsound.credible hflag).2)
  · rintro ⟨hfits, hcases⟩
    refine ⟨h.peakAllocBytes_le,
      fun access threads hshape moment =>
        h.allocates hfits access hshape moment,
      fun access threads hshape seed passes =>
        isSome_execute (fits_prepare access (h.bytes_lt access threads) seed)
          passes,
      fun hflag => ?_⟩
    have hcredible := (h.multiContaminated_eq_false_iff hfits).mp hflag
    refine ⟨hcredible, ?_⟩
    by_cases hlt : facts.l2 < largestSlice facts plan.threads
    · exact h.l2_lt_multiBytes hlt
    · have hslice := h.multiBytes_eq_of_le (not_lt.mp hlt)
      rcases hcases with hcase | hcase
      · exact absurd hcase hlt
      · rw [← hslice] at hcase
        exact absurd hcredible (not_le.mpr hcase)

/-- Every machine and every number of threads has a plan, and it is sound
exactly if the number of threads is no absurd one, and the largest slice that
the memory and the ceiling allow a thread exceeds its private cache or is too
small for the cache of the machine. -/
theorem exists_plan_isSound_iff (facts : MachineFacts) (count : ℕ) :
    ∃ plan, Plan.forMachine facts count = some plan ∧
      (plan.IsSound facts ↔
        3 * 4096 * max count 1 ≤ u64Max ∧
          (facts.l2 < largestSlice facts (max count 1) ∨
            max count 1 * largestSlice facts (max count 1) <
              2 * facts.llc)) := by
  obtain ⟨plan, hplan, hthreads, hsized⟩ := exists_forMachine facts count
  refine ⟨plan, hplan, ?_⟩
  rw [← hthreads]
  exact isSound_iff hsized

/-! ## A wide machine with little memory -/

open Rounding in
theorem holds_memoryBudgetFraction :
    Holds memoryBudgetFraction (2 ^ (-2 : ℤ)) := by
  have hunpack : memoryBudgetFraction.toModel.unpack =
      .finite .positive (2 ^ 52) (-54) (Nat.two_pow_pos 52) := by
    rfl
  have hvalue : (2 : ℚ) ^ (-2 : ℤ) = ((2 ^ 52 : ℕ) : ℚ) * 2 ^ (-54 : ℤ) := by
    norm_num
  rw [Holds, hunpack, hvalue]
  exact .intro _ _ _ le_rfl (by norm_num) (by norm_num) (by norm_num)

/-- The budget is a quarter of the memory, if its size is exact in binary. -/
theorem MachineFacts.budget_eq {facts : MachineFacts} {available : UInt64}
    (h : facts.availableBytes = some available) (hpos : 0 < available.toNat)
    (hlt : available.toNat < 2 ^ 53) (threads : ℕ) :
    facts.budget threads = available.toNat / 4 := by
  rw [budget, h]
  exact F64.toU64_ofNat_mul_share hpos hlt (by decide : 2 ≤ 64)
    holds_memoryBudgetFraction

/-- A machine on which 64 threads share a gibibyte of free memory. -/
def wideFacts : MachineFacts where
  lastLevelCacheBytes := some 33554432
  l2CacheBytes := some 2097152
  availableBytes := some 1073741824

theorem budget_wideFacts : wideFacts.budget 64 = 268435456 :=
  (MachineFacts.budget_eq rfl (by decide) (by decide) 64).trans (by decide)

/-- The slices of the wide machine fit in the private caches, and the plan does
not say so. -/
theorem not_isSound_wideFacts :
    ¬ ∃ plan, Plan.forMachine wideFacts 64 = some plan ∧
      plan.IsSound wideFacts := by
  rintro ⟨plan, hplan, hsound⟩
  obtain ⟨plan', hplan', hthreads, hsized⟩ := exists_forMachine wideFacts 64
  obtain rfl : plan = plan' := Option.some.inj (hplan.symm.trans hplan')
  have hslice : largestSlice wideFacts 64 = 1396736 := by
    rw [largestSlice, budget_wideFacts]
    decide
  obtain ⟨-, hcases⟩ := (isSound_iff hsized).mp hsound
  have hsixtyFour : plan.threads = 64 := hthreads
  rw [hsixtyFour, hslice] at hcases
  revert hcases
  decide

end MemoryBandwidth

end Darcbench
