import Mathlib.Data.Nat.Notation

/-!
# The generator of the corpora

All corpora and access patterns come from one small generator of 64-bit numbers
with fixed seeds.
-/

namespace Darcbench

structure SplitMix64 where
  state : UInt64

namespace SplitMix64

def new (seed : UInt64) : SplitMix64 := ⟨seed⟩

/-- The next number, and the generator after it. -/
def nextU64 (rng : SplitMix64) : UInt64 × SplitMix64 :=
  let state := rng.state + 0x9E3779B97F4A7C15
  let z := (state ^^^ (state >>> 30)) * 0xBF58476D1CE4E5B9
  let z := (z ^^^ (z >>> 27)) * 0x94D049BB133111EB
  (z ^^^ (z >>> 31), ⟨state⟩)

/-- The next numbers. -/
def outputs : ℕ → SplitMix64 → List UInt64
  | 0, _ => []
  | n + 1, rng => rng.nextU64.1 :: outputs n rng.nextU64.2

theorem length_outputs (n : ℕ) (rng : SplitMix64) :
    (outputs n rng).length = n := by
  induction n generalizing rng with
  | zero => rfl
  | succ n ih => rw [outputs, List.length_cons, ih]

end SplitMix64

/-- The fixed seed of every corpus. -/
def corpusSeed : UInt64 := 0x0DA2C8E0C4A15EED

/-- The bytes of a number of 64 bits, the lowest first. -/
def leBytes (value : UInt64) : List UInt8 :=
  (List.range 8).map fun i => (value >>> (8 * i.toUInt64)).toUInt8

theorem length_flatMap_leBytes (values : List UInt64) :
    (values.flatMap leBytes).length = 8 * values.length := by
  induction values with
  | nil => rfl
  | cons value rest ih =>
      have height : (leBytes value).length = 8 := by
        rw [leBytes, List.length_map, List.length_range]
      rw [List.flatMap_cons, List.length_append, ih, height, List.length_cons]
      omega

end Darcbench
