import Darcbench.Modules.SplitMix
import Darcbench.Support.Saturating
import Mathlib.Data.List.Range

/-!
# Memory bandwidth

The module walks buffers of a planned size, in several access patterns, on one
thread and on all of them.  The random patterns follow a permutation of the slots
that is a single cycle.
-/

namespace Darcbench

namespace MemoryBandwidth

/-! ## Access patterns -/

inductive Access
  | sequentialRead
  | sequentialWrite
  | sequentialCopy
  | triad
  | randomRead
  | cacheRead
  | latencyRandom
  deriving DecidableEq

/-- Bytes of a payload element. -/
def elem : ℕ := 8

/-- Bytes of an entry of the permutation. -/
def indexBytes : ℕ := 4

def latencyStepsPerPass : ℕ := 65536

def triadScalar : UInt64 := 3

namespace Access

def hasMultiShape (access : Access) : Bool :=
  access ≠ latencyRandom

/-- The payload buffers that are live at once. -/
def buffers : Access → ℕ
  | latencyRandom => 0
  | sequentialCopy => 2
  | triad => 3
  | _ => 1

/-- The entries of the permutation for a working set. -/
def permutationEntries (access : Access) (bytes : ℕ) : ℕ :=
  match access with
  | latencyRandom => max (bytes / indexBytes) 1
  | randomRead => max (bytes / elem) 1
  | _ => 0

def isCacheResident (access : Access) : Bool :=
  access = cacheRead

end Access

/-! ## The permutation -/

/-- Sattolo's shuffle: every index from the last down is swapped with a lower
one. -/
def shuffle : ℕ → SplitMix64 → Array ℕ → Array ℕ
  | 0, _, order => order
  | i + 1, rng, order =>
      let (value, rng) := rng.nextU64
      let j := (value % (i + 1).toUInt64).toNat
      shuffle i rng (order.swapIfInBounds (i + 1) j)

/-- The pointer from one slot to the next. -/
def link (next : Array ℕ) (window : ℕ × ℕ) : Array ℕ :=
  next.setIfInBounds window.1 window.2

/-- The order of the visits as pointers, from the last visit to the first. -/
def successors (len : ℕ) (order : List ℕ) : Array ℕ :=
  let next := (order.zip order.tail).foldl link (Array.replicate len 0)
  match order.getLast?, order.head? with
  | some last, some first => next.setIfInBounds last first
  | _, _ => next

/-- The slots are counted in 32 bits. -/
def permutation (len : ℕ) (seed : UInt64) : Array ℕ :=
  let order := Array.range (len % 2 ^ 32)
  if len < 2 then order
  else successors len (shuffle (len - 1) (SplitMix64.new seed) order).toList

/-! ## Working sets -/

/-- The buffers of a thread, and how far the pointer chase has come. -/
structure WorkingSet where
  a : Array UInt64
  b : Array UInt64
  c : Array UInt64
  permutation : Array ℕ
  cursor : ℕ

def WorkingSet.prepare (access : Access) (bytes : ℕ) (seed : UInt64) :
    WorkingSet :=
  let elements := max (bytes / elem) 1
  let fill (count : ℕ) (value : UInt64) : Array UInt64 :=
    if count ≤ access.buffers then Array.replicate elements value else #[]
  { a := fill 1 1
    b := fill 2 2
    c := fill 3 3
    permutation :=
      match access.permutationEntries bytes with
      | 0 => #[]
      | entries => MemoryBandwidth.permutation entries seed
    cursor := 0 }

/-- What a repetition leaves behind.  The slots that the pointer chase has
loaded are kept beside it. -/
structure Executed where
  acc : UInt64
  state : WorkingSet
  loads : List ℕ

/-- A chain of dependent loads, with the slots in the order of the loads.  A slot
outside of the array would be a panic. -/
def chase (next : Array ℕ) : ℕ → ℕ → Option (List ℕ × ℕ)
  | 0, cursor => some ([], cursor)
  | steps + 1, cursor => do
      let following ← next[cursor]?
      let (loads, last) ← chase next steps following
      some (cursor :: loads, last)

/-- The sum of the elements at the entries of the permutation. -/
def gather (a : Array UInt64) (permutation : Array ℕ) : Option UInt64 :=
  permutation.toList.foldlM (fun sum index => (a[index]?).map (sum + ·)) 0

/-- The first buffer, as the sum of the two others. -/
def triad (state : WorkingSet) : Array UInt64 :=
  state.a.mapIdx fun i slot =>
    match state.b[i]?, state.c[i]? with
    | some x, some y => x + triadScalar * y
    | _, _ => slot

/-- One pass.  There is none where the code would panic. -/
def pass (access : Access) (e : Executed) (index : ℕ) : Option Executed :=
  match access with
  | .sequentialRead | .cacheRead =>
      some { e with acc := e.acc + e.state.a.foldl (· + ·) 0 }
  | .sequentialWrite => do
      let a := Array.replicate e.state.a.size (index.toUInt64 ||| 1)
      let first ← a[0]?
      some { e with acc := e.acc + first, state := { e.state with a := a } }
  | .sequentialCopy =>
      if e.state.a.size = e.state.b.size then do
        let first ← e.state.b[0]?
        some { e with
          acc := e.acc + first
          state := { e.state with a := e.state.b } }
      else none
  | .triad => do
      let a := triad e.state
      let first ← a[0]?
      some { e with acc := e.acc + first, state := { e.state with a := a } }
  | .randomRead => do
      let sum ← gather e.state.a e.state.permutation
      some { e with acc := e.acc + sum }
  | .latencyRandom =>
      if e.state.permutation.isEmpty then some e
      else do
        let (loads, cursor) ←
          chase e.state.permutation latencyStepsPerPass e.state.cursor
        some
          { acc := e.acc + cursor.toUInt64
            state := { e.state with cursor := cursor }
            loads := e.loads ++ loads }

/-- The passes of one repetition. -/
def execute (access : Access) (state : WorkingSet) (passes : ℕ) :
    Option Executed :=
  (List.range passes).foldlM (pass access) ⟨0, state, []⟩

end MemoryBandwidth

end Darcbench
