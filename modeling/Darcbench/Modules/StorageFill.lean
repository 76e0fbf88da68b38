import Darcbench.Modules.SplitMix
import Darcbench.Modules.StoragePlan

/-!
# Filling the storage fixture

The fixture is written once in large blocks, so that nothing reads from a hole.
The workloads then read and write whole blocks at offsets inside it.
-/

namespace Darcbench

namespace StorageMixed

/-! ## The file -/

/-- A file: the bytes that were written to it, and its length. -/
structure Fixture where
  bytes : ℕ → Option UInt8
  length : ℕ

namespace Fixture

/-- A file that has just been created. -/
def empty : Fixture := ⟨fun _ => none, 0⟩

/-- Writes the first bytes of a buffer at an offset, as many as are accepted. -/
def writeAt (fixture : Fixture) (buf : List UInt8) (offset accepted : ℕ) :
    Fixture where
  bytes p :=
    if offset ≤ p ∧ p < offset + min accepted buf.length then buf[p - offset]?
    else fixture.bytes p
  length :=
    if min accepted buf.length = 0 then fixture.length
    else max fixture.length (offset + min accepted buf.length)

variable {fixture : Fixture} {buf : List UInt8} {offset accepted : ℕ}

theorem bytes_writeAt_of_lt {p : ℕ} (h : p < offset) :
    (fixture.writeAt buf offset accepted).bytes p = fixture.bytes p :=
  if_neg fun hin => absurd hin.1 (Nat.not_le_of_lt h)

theorem bytes_writeAt_of_accepted {i : ℕ} (h : i < min accepted buf.length) :
    (fixture.writeAt buf offset accepted).bytes (offset + i) = buf[i]? := by
  rw [writeAt]
  dsimp only
  rw [if_pos ⟨Nat.le_add_right _ _, Nat.add_lt_add_left h _⟩,
    Nat.add_sub_cancel_left]

theorem bytes_writeAt_of_refused {p : ℕ}
    (h : offset + min accepted buf.length ≤ p) :
    (fixture.writeAt buf offset accepted).bytes p = fixture.bytes p :=
  if_neg fun hin => absurd hin.2 (Nat.not_lt_of_le h)

/-- A write that is accepted whole makes the file end behind it. -/
theorem length_writeAt (h : fixture.length = offset)
    (hwhole : buf.length ≤ accepted) :
    (fixture.writeAt buf offset accepted).length = offset + buf.length := by
  rw [writeAt]
  dsimp only
  rw [min_eq_right hwhole, h]
  split
  · omega
  · omega

end Fixture

/-! ## The loop -/

/-- The block that is written again and again. -/
def fillBlock : List UInt8 :=
  let rng := SplitMix64.new (corpusSeed ^^^ 0x57074A6E)
  (rng.outputs (largeBlock / 8)).flatMap leBytes

theorem length_fillBlock : fillBlock.length = largeBlock := by
  rw [fillBlock, length_flatMap_leBytes, SplitMix64.length_outputs]
  decide

/-- The bytes of the next write. -/
def nextWrite (bytes written : ℕ) : List UInt8 :=
  fillBlock.take (bytes - written)

theorem length_nextWrite (bytes written : ℕ) :
    (nextWrite bytes written).length = min (bytes - written) largeBlock := by
  rw [nextWrite, List.length_take, length_fillBlock]

/-- The loop from a number of bytes.  Each write fails or says how many bytes it
has accepted, which the loop does not look at. -/
def fillFrom (bytes : ℕ) (writes : ℕ → Option ℕ) (call written : ℕ)
    (fixture : Fixture) : Option Fixture :=
  if written < bytes then
    match writes call with
    | none => none
    | some accepted =>
        fillFrom bytes writes (call + 1)
          (written + (nextWrite bytes written).length)
          (fixture.writeAt (nextWrite bytes written) written accepted)
  else
    some fixture
termination_by bytes - written
decreasing_by
  have hpos : 0 < largeBlock := by decide
  rw [length_nextWrite]
  omega

/-- Writes so many bytes to a new file and syncs it. -/
def fill (bytes : ℕ) (writes : ℕ → Option ℕ) (synced : Bool) :
    Option Fixture :=
  (fillFrom bytes writes 0 0 .empty).filter fun _ => synced

/-! ## What the loop writes -/

section

variable {bytes call written : ℕ} {writes : ℕ → Option ℕ}
  {fixture final : Fixture}

/-- The next write starts where the blocks before it end. -/
theorem next_written (hwritten : written = min (call * largeBlock) bytes)
    (hlt : written < bytes) :
    written = call * largeBlock ∧
      written + (nextWrite bytes written).length =
        min ((call + 1) * largeBlock) bytes := by
  rw [length_nextWrite, Nat.succ_mul]
  omega

/-- Each block is written up to where its write was accepted. -/
theorem bytes_fillFrom (hwritten : written = min (call * largeBlock) bytes)
    (h : fillFrom bytes writes call written fixture = some final) :
    (∀ p < written, final.bytes p = fixture.bytes p) ∧
      ∀ c, call ≤ c → c * largeBlock < bytes →
        ∃ accepted, writes c = some accepted ∧
          ∀ i < min (bytes - c * largeBlock) largeBlock,
            final.bytes (c * largeBlock + i) =
              if i < accepted then fillBlock[i]?
              else fixture.bytes (c * largeBlock + i) := by
  fun_induction fillFrom bytes writes call written fixture with
  | case1 call written fixture hlt hfail => cases h
  | case2 call written fixture hlt accepted haccepted ih =>
      obtain ⟨hstart, hnext⟩ := next_written hwritten hlt
      obtain ⟨hbefore, hafter⟩ := ih hnext h
      have hlength := length_nextWrite bytes written
      constructor
      · intro p hp
        rw [hbefore p (Nat.lt_add_right _ hp), Fixture.bytes_writeAt_of_lt hp]
      · intro c hc hcb
        rcases hc.lt_or_eq with hc | rfl
        · obtain ⟨accepted', haccepted', hbytes⟩ := hafter c hc hcb
          refine ⟨accepted', haccepted', fun i hi => ?_⟩
          rw [hbytes i hi]
          split
          · rfl
          · refine Fixture.bytes_writeAt_of_refused ?_
            have hblock : (call + 1) * largeBlock ≤ c * largeBlock :=
              Nat.mul_le_mul_right _ hc
            rw [Nat.succ_mul] at hblock
            omega
        · refine ⟨accepted, haccepted, fun i hi => ?_⟩
          rw [← hstart] at hi ⊢
          rw [← hlength] at hi
          rw [hbefore _ (Nat.add_lt_add_left hi _)]
          by_cases hacc : i < accepted
          · rw [if_pos hacc, Fixture.bytes_writeAt_of_accepted
              (Nat.lt_min.mpr ⟨hacc, hi⟩), nextWrite, List.getElem?_take]
            rw [if_pos (by rw [hlength] at hi; omega)]
          · rw [if_neg hacc]
            exact Fixture.bytes_writeAt_of_refused (by omega)
  | case3 call written fixture hge =>
      obtain rfl := Option.some.inj h
      refine ⟨fun _ _ => rfl, fun c hc hcb => ?_⟩
      have hblock : call * largeBlock ≤ c * largeBlock :=
        Nat.mul_le_mul_right _ hc
      omega

/-- If all writes are accepted whole, the file ends behind the last one. -/
theorem length_fillFrom (hwritten : written = min (call * largeBlock) bytes)
    (hlength : fixture.length = written)
    (hwhole : ∀ c, call ≤ c → c * largeBlock < bytes → ∀ accepted ∈ writes c,
      min (bytes - c * largeBlock) largeBlock ≤ accepted)
    (h : fillFrom bytes writes call written fixture = some final) :
    final.length = bytes := by
  fun_induction fillFrom bytes writes call written fixture with
  | case1 call written fixture hlt hfail => cases h
  | case2 call written fixture hlt accepted haccepted ih =>
      obtain ⟨hstart, hnext⟩ := next_written hwritten hlt
      refine ih hnext ?_ (fun c hc => hwhole c (by omega)) h
      refine Fixture.length_writeAt hlength ?_
      rw [length_nextWrite, hstart]
      exact hwhole call le_rfl (hstart ▸ hlt) accepted haccepted
  | case3 call written fixture hge =>
      obtain rfl := Option.some.inj h
      omega

end

/-- A loop of which no write fails comes to its end. -/
theorem exists_fillFrom (bytes call written : ℕ) {writes : ℕ → Option ℕ}
    (fixture : Fixture) (h : ∀ c, (writes c).isSome = true) :
    ∃ final, fillFrom bytes writes call written fixture = some final := by
  fun_induction fillFrom bytes writes call written fixture with
  | case1 call written fixture hlt hfail =>
      have hsome := h call
      rw [hfail] at hsome
      exact absurd hsome Bool.false_ne_true
  | case2 call written fixture hlt accepted haccepted ih => exact ih
  | case3 call written fixture hge => exact ⟨fixture, rfl⟩

/-! ## The operations of a workload -/

inductive Access
  | sequentialRead
  | sequentialWrite
  | randomRead
  | randomWrite
  | randomMixed
  | fsync
  deriving DecidableEq

def Access.blockBytes : Access → ℕ
  | sequentialRead | sequentialWrite => largeBlock
  | _ => smallBlock

def Access.isSequential : Access → Bool
  | sequentialRead | sequentialWrite => true
  | _ => false

/-- Read share of the mixed workload, in percent. -/
def mixedReadShare : ℕ := 70

inductive OperationKind
  | read
  | write
  /-- A write and the barrier after it. -/
  | writeAndSync

structure Operation where
  kind : OperationKind
  offset : ℕ

/-- What a thread carries from one operation to the next. -/
structure ThreadState where
  rng : SplitMix64
  cursor : ℕ

/-- The next offset of a thread: at its cursor, or drawn. -/
def nextOffset (isSequential : Bool) (block blocks : ℕ) (s : ThreadState) :
    ℕ × ThreadState :=
  if isSequential then
    (s.cursor * block, { s with cursor := (s.cursor + 1) % blocks })
  else
    (s.rng.nextU64.1.toNat % blocks * block, { s with rng := s.rng.nextU64.2 })

/-- What a thread does at its next offset.  A mixed workload draws another
number for it. -/
def nextKind (access : Access) (rng : SplitMix64) :
    OperationKind × SplitMix64 :=
  match access with
  | .sequentialRead | .randomRead => (.read, rng)
  | .sequentialWrite | .randomWrite => (.write, rng)
  | .randomMixed =>
      (if rng.nextU64.1.toNat % 100 < mixedReadShare then .read else .write,
        rng.nextU64.2)
  | .fsync => (.writeAndSync, rng)

/-- The next operation of a thread. -/
def threadOp (access : Access) (blocks : ℕ) (s : ThreadState) :
    Operation × ThreadState :=
  let (offset, s) := nextOffset access.isSequential access.blockBytes blocks s
  let (kind, rng) := nextKind access s.rng
  (⟨kind, offset⟩, { s with rng })

/-- The operations that a thread performs, up to the first that fails. -/
def threadOpsFrom (access : Access) (blocks : ℕ) (fails : ℕ → Bool) :
    ℕ → ℕ → ThreadState → List Operation
  | _, 0, _ => []
  | done, left + 1, s =>
      let (operation, next) := threadOp access blocks s
      operation ::
        if fails done then [] else threadOpsFrom access blocks fails (done + 1)
          left next

def threadOps (access : Access) (ops blocks : ℕ) (seed : UInt64)
    (fails : ℕ → Bool) : List Operation :=
  threadOpsFrom access blocks fails 0 ops
    ⟨.new seed, seed.toNat % blocks⟩

/-- The operations of all threads on a fixture of the given size, one list for
each of them. -/
def runOps (fixtureBytes : ℕ) (access : Access) (queueDepth ops : ℕ)
    (seed : UInt64) (fails : ℕ → ℕ → Bool) : List (List Operation) :=
  let threads := max queueDepth 1
  let block := access.blockBytes
  let perThread := max ((ops + threads - 1) / threads) 1
  let blocks := max (fixtureBytes / block) 1
  (List.range threads).map fun thread =>
    let threadSeed := seed ^^^ (thread.toUInt64 * 0x9E3779B97F4A7C15)
    threadOps access perThread blocks threadSeed (fails thread)

/-- An operation on a whole block, of so many blocks. -/
def Operation.OnBlock (block blocks : ℕ) (operation : Operation) : Prop :=
  ∃ k < blocks, operation.offset = k * block

theorem nextOffset_spec {isSequential : Bool} {block blocks : ℕ}
    {s : ThreadState} (hblocks : 0 < blocks) (hcursor : s.cursor < blocks) :
    (∃ k < blocks, (nextOffset isSequential block blocks s).1 = k * block) ∧
      (nextOffset isSequential block blocks s).2.cursor < blocks := by
  obtain ⟨rng, cursor⟩ := s
  unfold nextOffset
  split
  · exact ⟨⟨cursor, hcursor, rfl⟩, Nat.mod_lt _ hblocks⟩
  · -- Which number is drawn does not matter.
    generalize rng.nextU64 = draw
    exact ⟨⟨draw.1.toNat % blocks, Nat.mod_lt _ hblocks, rfl⟩, hcursor⟩

theorem threadOp_onBlock {access : Access} {blocks : ℕ} {s : ThreadState}
    (hblocks : 0 < blocks) (hcursor : s.cursor < blocks) :
    (threadOp access blocks s).1.OnBlock access.blockBytes blocks ∧
      (threadOp access blocks s).2.cursor < blocks :=
  nextOffset_spec hblocks hcursor

theorem threadOpsFrom_onBlock {access : Access} {blocks : ℕ}
    {fails : ℕ → Bool} (hblocks : 0 < blocks) (left done : ℕ)
    {s : ThreadState} (hcursor : s.cursor < blocks) :
    ∀ operation ∈ threadOpsFrom access blocks fails done left s,
      operation.OnBlock access.blockBytes blocks := by
  induction left generalizing done s with
  | zero => exact fun operation h => absurd h List.not_mem_nil
  | succ left ih =>
      obtain ⟨hfirst, hnext⟩ :=
        @threadOp_onBlock access blocks s hblocks hcursor
      intro operation hmem
      rw [threadOpsFrom] at hmem
      rcases List.mem_cons.mp hmem with rfl | hmem
      · exact hfirst
      · split at hmem
        · exact absurd hmem List.not_mem_nil
        · exact ih (done + 1) hnext operation hmem

theorem threadOps_onBlock (access : Access) (ops : ℕ) {blocks : ℕ}
    (seed : UInt64) (fails : ℕ → Bool) (hblocks : 0 < blocks) :
    ∀ operation ∈ threadOps access ops blocks seed fails,
      operation.OnBlock access.blockBytes blocks :=
  @threadOpsFrom_onBlock access blocks fails hblocks ops 0
    ⟨.new seed, seed.toNat % blocks⟩ (Nat.mod_lt _ hblocks)

theorem Access.blockBytes_le (access : Access) :
    0 < access.blockBytes ∧ access.blockBytes ≤ largeBlock := by
  cases access <;> decide

/-- All operations on a fixture of at least a large block stay inside it. -/
theorem runOps_inside {fixtureBytes : ℕ} (h : largeBlock ≤ fixtureBytes)
    (access : Access) (queueDepth ops : ℕ) (seed : UInt64)
    (fails : ℕ → ℕ → Bool) :
    ∀ operations ∈ runOps fixtureBytes access queueDepth ops seed fails,
      ∀ operation ∈ operations, access.blockBytes ∣ operation.offset ∧
        operation.offset + access.blockBytes ≤ fixtureBytes := by
  intro operations hoperations operation hmem
  obtain ⟨thread, -, rfl⟩ := List.mem_map.mp hoperations
  obtain ⟨hpos, hle⟩ := access.blockBytes_le
  have hwhole : 0 < fixtureBytes / access.blockBytes :=
    Nat.div_pos (hle.trans h) hpos
  rw [max_eq_left (Nat.one_le_of_lt hwhole)] at hmem
  obtain ⟨k, hk, hoffset⟩ :=
    threadOps_onBlock access _ _ _ hwhole operation hmem
  refine ⟨hoffset ▸ Nat.dvd_mul_left _ _, ?_⟩
  calc
    operation.offset + access.blockBytes = (k + 1) * access.blockBytes := by
      rw [hoffset, Nat.succ_mul]
    _ ≤ fixtureBytes / access.blockBytes * access.blockBytes :=
      Nat.mul_le_mul_right _ hk
    _ ≤ fixtureBytes := Nat.div_mul_le_self _ _

/-! ## Holes -/

/-- Every byte below the size has been written, the file ends there, and on a
fixture that a plan asks for all operations are on whole blocks of it. -/
structure FillsWhole (bytes : ℕ) (fixture : Fixture) : Prop where
  written : ∀ p < bytes, fixture.bytes p = fillBlock[p % largeBlock]?
  length : fixture.length = bytes
  addressed : ∀ free, bytes = (Plan.forFreeSpace free).fixtureBytes →
    ∀ access queueDepth ops seed fails,
      ∀ operations ∈ runOps bytes access queueDepth ops seed fails,
        ∀ operation ∈ operations, access.blockBytes ∣ operation.offset ∧
          ∀ i < access.blockBytes, operation.offset + i < fixture.length ∧
            (fixture.bytes (operation.offset + i)).isSome = true

theorem isSome_fillBlock (p : ℕ) :
    (fillBlock[p % largeBlock]?).isSome = true := by
  have hpos : 0 < largeBlock := by decide
  have hlt : p % largeBlock < fillBlock.length := by
    rw [length_fillBlock]
    exact Nat.mod_lt p hpos
  rw [List.getElem?_eq_getElem hlt]
  rfl

/-- The file is filled without holes exactly when no write was short. -/
theorem fillsWhole_iff (bytes : ℕ) (writes : ℕ → Option ℕ) (synced : Bool)
    (fixture : Fixture) (h : fill bytes writes synced = some fixture) :
    FillsWhole bytes fixture ↔
      ∀ call, call * largeBlock < bytes → ∀ accepted ∈ writes call,
        min (bytes - call * largeBlock) largeBlock ≤ accepted := by
  have hpos : 0 < largeBlock := by decide
  obtain ⟨hfill, -⟩ := Option.filter_eq_some_iff.mp h
  have hstart : 0 = min (0 * largeBlock) bytes := by
    rw [Nat.zero_mul, Nat.zero_min]
  obtain ⟨-, hbytes⟩ := bytes_fillFrom hstart hfill
  constructor
  · intro hwhole call hcall accepted haccepted
    obtain ⟨accepted', haccepted', hblock⟩ := hbytes call (Nat.zero_le _) hcall
    obtain rfl := Option.some.inj (haccepted.symm.trans haccepted')
    by_contra hshort
    have hlt := not_le.mp hshort
    -- The first byte that was not accepted is a hole.
    have hhole := hblock accepted hlt
    rw [if_neg (Nat.lt_irrefl _)] at hhole
    have hsome := isSome_fillBlock (call * largeBlock + accepted)
    rw [← hwhole.written _ (by omega), hhole] at hsome
    exact Bool.false_ne_true hsome
  · intro hall
    have hlength := length_fillFrom hstart rfl (fun c _ => hall c) hfill
    have hwritten : ∀ p < bytes, fixture.bytes p =
        fillBlock[p % largeBlock]? := by
      intro p hp
      have hsplit := Nat.div_add_mod' p largeBlock
      have hmod := Nat.mod_lt p hpos
      obtain ⟨accepted, haccepted, hblock⟩ :=
        hbytes (p / largeBlock) (Nat.zero_le _) (by omega)
      have hin : p % largeBlock <
          min (bytes - p / largeBlock * largeBlock) largeBlock :=
        Nat.lt_min.mpr ⟨by omega, hmod⟩
      have hbyte := hblock _ hin
      rw [hsplit, if_pos (hin.trans_le (hall _ (by omega) _ haccepted))]
        at hbyte
      exact hbyte
    refine ⟨hwritten, hlength, ?_⟩
    intro free hfree access queueDepth ops seed fails operations hoperations
      operation hmem
    have hlarge : largeBlock ≤ bytes := by
      rw [hfree]
      exact (by decide : largeBlock ≤ minFixtureBytes).trans
        (fixtureBytes_limits free).2.1
    obtain ⟨hdvd, hinside⟩ := runOps_inside hlarge access queueDepth ops seed
      fails operations hoperations operation hmem
    refine ⟨hdvd, fun i hi => ?_⟩
    rw [hlength, hwritten _ (by omega)]
    exact ⟨by omega, isSome_fillBlock _⟩

/-- Writes that are accepted whole. -/
theorem fillsWhole_minFixtureBytes :
    ∃ fixture, fill minFixtureBytes (fun _ => some largeBlock) true =
        some fixture ∧ FillsWhole minFixtureBytes fixture := by
  obtain ⟨fixture, hfixture⟩ :=
    exists_fillFrom minFixtureBytes 0 0 .empty fun _ : ℕ =>
      (rfl : (some largeBlock).isSome = true)
  have hfill : fill minFixtureBytes (fun _ => some largeBlock) true =
      some fixture := by
    rw [fill, hfixture]
    rfl
  refine ⟨fixture, hfill, (fillsWhole_iff _ _ _ _ hfill).mpr ?_⟩
  intro call _ accepted haccepted
  obtain rfl := Option.some.inj haccepted
  exact min_le_right _ _

/-- The first write is accepted up to its first byte, and the others whole. -/
def shortFirst (call : ℕ) : Option ℕ :=
  some (if call = 0 then 1 else largeBlock)

theorem not_fillsWhole_shortFirst :
    ∃ fixture, fill minFixtureBytes shortFirst true = some fixture ∧
      fixture.bytes 1 = none ∧ ¬ FillsWhole minFixtureBytes fixture := by
  obtain ⟨fixture, hfixture⟩ :=
    exists_fillFrom minFixtureBytes 0 0 .empty fun call : ℕ =>
      (rfl : (shortFirst call).isSome = true)
  have hfill : fill minFixtureBytes shortFirst true = some fixture := by
    rw [fill, hfixture]
    rfl
  obtain ⟨-, hbytes⟩ := bytes_fillFrom (by decide) hfixture
  obtain ⟨accepted, haccepted, hblock⟩ := hbytes 0 le_rfl (by decide)
  obtain rfl := Option.some.inj haccepted
  have hhole := hblock 1 (by decide)
  rw [Nat.zero_mul, Nat.zero_add, if_neg (by decide)] at hhole
  refine ⟨fixture, hfill, hhole, fun hwhole => ?_⟩
  have hsome := isSome_fillBlock 1
  rw [← hwhole.written 1 (by decide), hhole] at hsome
  exact Bool.false_ne_true hsome

end StorageMixed

end Darcbench
