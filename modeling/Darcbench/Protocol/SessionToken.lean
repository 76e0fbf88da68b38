import Darcbench.Support.Words

/-!
# The token of a session

The secret that a person carries from the target to the generator, and that is
required on every request.
-/

namespace Darcbench

def tokenBytes : ℕ := 32

/-- A secret of 256 bits. -/
structure SessionToken where
  bytes : List UInt8
  length_eq : bytes.length = tokenBytes
  deriving DecidableEq

namespace SessionToken

theorem length_zeros : (List.replicate 32 (0 : UInt8)).length = tokenBytes :=
  rfl

/-- The bits in which two byte sequences differ, collected in one byte. -/
def difference (bytes others : List UInt8) : UInt8 :=
  (bytes.zip others).foldl (fun difference (a, b) => difference ||| (a ^^^ b)) 0

/-- Compares without an early exit. -/
def «matches» (token other : SessionToken) : Bool :=
  difference token.bytes other.bytes == 0

theorem or_eq_zero_iff (a b : UInt8) : a ||| b = 0 ↔ a = 0 ∧ b = 0 := by
  constructor
  · intro h
    have hbits : a.toNat ||| b.toNat = 0 := by
      rw [← UInt8.toNat_or, h]
      rfl
    obtain ⟨ha, hb⟩ := Nat.or_eq_zero_iff.mp hbits
    exact ⟨UInt8.toNat_inj.mp ha, UInt8.toNat_inj.mp hb⟩
  · rintro ⟨rfl, rfl⟩
    rfl

theorem foldl_difference_eq_zero_iff (pairs : List (UInt8 × UInt8))
    (difference : UInt8) :
    pairs.foldl (fun difference (a, b) => difference ||| (a ^^^ b)) difference =
      0 ↔ difference = 0 ∧ ∀ p ∈ pairs, p.1 = p.2 := by
  induction pairs generalizing difference with
  | nil => simp
  | cons p pairs ih =>
      rw [List.foldl_cons, ih, or_eq_zero_iff, UInt8.xor_eq_zero_iff,
        List.forall_mem_cons, and_assoc]

/-- Two tokens match exactly when they are the same. -/
theorem matches_iff (token other : SessionToken) :
    token.matches other = true ↔ token = other := by
  obtain ⟨bytes, hbytes⟩ := token
  obtain ⟨others, hothers⟩ := other
  have hlength : bytes.length = others.length := hbytes.trans hothers.symm
  rw [«matches», beq_iff_eq, difference, foldl_difference_eq_zero_iff,
    SessionToken.mk.injEq]
  constructor
  · rintro ⟨-, h⟩
    refine List.ext_getElem hlength fun i hi hi' => ?_
    have hmem : (bytes[i], others[i]) ∈ bytes.zip others := by
      rw [List.mem_iff_getElem]
      exact ⟨i, by rw [List.length_zip]; exact Nat.lt_min.mpr ⟨hi, hi'⟩,
        List.getElem_zip⟩
    exact h _ hmem
  · rintro rfl
    refine ⟨rfl, fun p hp => ?_⟩
    obtain ⟨i, hi, rfl⟩ := List.getElem_of_mem hp
    rw [List.getElem_zip]

/-- The value of a hexadecimal digit in either case. -/
def hexValue? (c : Char) : Option UInt8 :=
  if '0' ≤ c ∧ c ≤ '9' then some (UInt8.ofNat (c.toNat - '0'.toNat))
  else if 'a' ≤ c ∧ c ≤ 'f' then
    some (UInt8.ofNat (c.toNat - 'a'.toNat + 10))
  else if 'A' ≤ c ∧ c ≤ 'F' then
    some (UInt8.ofNat (c.toNat - 'A'.toNat + 10))
  else none

/-- Two digits for each byte. -/
def hexDecode : List Char → Option (List UInt8)
  | [] => some []
  | [_] => none
  | high :: low :: rest => do
      let high ← hexValue? high
      let low ← hexValue? low
      let bytes ← hexDecode rest
      return (high * 16 + low) :: bytes

/-- A token as a person pastes it. -/
def fromStr (text : List Char) : Option SessionToken := do
  let raw ← hexDecode (Words.trim text)
  if h : raw.length = tokenBytes then some ⟨raw, h⟩ else none

end SessionToken

end Darcbench
