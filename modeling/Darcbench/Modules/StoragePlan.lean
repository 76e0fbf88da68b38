import Darcbench.Protocol.Rounding
import Darcbench.Support.Blocks
import Mathlib.Data.UInt

/-!
# The size of the storage fixture

The fixture is sized against the space that is free.  It is a share of the
space, within limits, and it is written only if it fits.
-/

namespace Darcbench

namespace StorageMixed

/-- Block size of the small operations. -/
def smallBlock : ℕ := 4096

/-- Block size of the streaming operations. -/
def largeBlock : ℕ := 2 ^ 20

def preferredFixtureBytes : ℕ := 2 * 2 ^ 30

/-- The smallest fixture that still means anything. -/
def minFixtureBytes : ℕ := 64 * 2 ^ 20

/-- Share of the free space that the fixture may occupy. -/
def freeSpaceShare : Float := 0.125

structure Plan where
  fixtureBytes : ℕ
  /-- The free space, not the preferred size, chose the fixture. -/
  constrained : Bool

/-- A size without the part of a block at its end: the mask of 64 bits. -/
def wholeBlocks (bytes : ℕ) : ℕ :=
  bytes &&& (2 ^ 64 - 1 - (largeBlock - 1))

/-- The share of the free space, as a whole number of bytes. -/
def affordable (free : UInt64) : ℕ :=
  F64.Round.toU64 (F64.ofNat free.toNat * freeSpaceShare)

namespace Plan

/-- Sizes the fixture against the free space. -/
def forFreeSpace (freeBytes : Option UInt64) : Plan :=
  match freeBytes.filter fun free => 0 < free with
  | none => ⟨minFixtureBytes, true⟩
  | some free =>
      let affordable := affordable free
      let fixtureBytes := wholeBlocks
        (min (max affordable minFixtureBytes) preferredFixtureBytes)
      ⟨max fixtureBytes largeBlock,
        decide (affordable < preferredFixtureBytes)⟩

/-- Whether there is room for the fixture.  A run writes only if there is. -/
def fitsIn (plan : Plan) : Option UInt64 → Bool
  | some free => plan.fixtureBytes < free.toNat
  | none => false

end Plan

/-! ## The share -/

open Rounding

theorem holds_freeSpaceShare : Holds freeSpaceShare (2 ^ (-3 : ℤ)) := by
  have hunpack : freeSpaceShare.toModel.unpack =
      .finite .positive (2 ^ 52) (-55) (Nat.two_pow_pos 52) := by
    rfl
  have hvalue : (2 : ℚ) ^ (-3 : ℤ) = ((2 ^ 52 : ℕ) : ℚ) * 2 ^ (-55 : ℤ) := by
    norm_num
  rw [Holds, hunpack, hvalue]
  exact .intro _ _ _ le_rfl (by norm_num) (by norm_num) (by norm_num)

/-- The share of a size that is exact in binary is an eighth. -/
theorem affordable_of_lt {free : UInt64} (hpos : 0 < free.toNat)
    (h : free.toNat < 2 ^ 53) : affordable free = free.toNat / 8 :=
  F64.toU64_ofNat_mul_share hpos h (by decide : 3 ≤ 64) holds_freeSpaceShare

/-- The share of a larger size is beyond every limit. -/
theorem preferredFixtureBytes_le_affordable {free : UInt64}
    (h : 2 ^ 53 ≤ free.toNat) : preferredFixtureBytes ≤ affordable free := by
  have hpos : 0 < free.toNat :=
    (Nat.two_pow_pos 53).trans_le h
  have hcast : ((2 : ℚ)) ^ (53 : ℤ) ≤ free.toNat :=
    mod_cast h
  have hmost : (free.toNat : ℚ) ≤ 2 ^ (64 : ℤ) :=
    mod_cast free.toNat_lt.le
  have hfree : Within (Float.ofNat free.toNat) 53 64 :=
    ⟨_, holds_ofNat hpos free.toNat_lt, rounded_bounds hcast hmost⟩
  have hshare : Within freeSpaceShare (-3) (-3) :=
    ⟨_, holds_freeSpaceShare, le_rfl, le_rfl⟩
  obtain ⟨x, hx, hlow, -⟩ := hfree.mul hshare (by norm_num) (by norm_num)
  refine hx.le_toUInt64 (le_trans ?_ hlow) (by decide)
  rw [preferredFixtureBytes]
  norm_num

/-- Within its limits, the share is an eighth of the free space. -/
theorem clamped_affordable {free : UInt64} (hpos : 0 < free.toNat) :
    min (max (affordable free) minFixtureBytes) preferredFixtureBytes =
      min (max (free.toNat / 8) minFixtureBytes) preferredFixtureBytes := by
  by_cases hsmall : free.toNat < 2 ^ 53
  · rw [affordable_of_lt hpos hsmall]
  · have hlarge := preferredFixtureBytes_le_affordable (not_lt.mp hsmall)
    have height : preferredFixtureBytes ≤ free.toNat / 8 := by
      rw [preferredFixtureBytes]
      omega
    rw [min_eq_right (hlarge.trans (le_max_left _ _)),
      min_eq_right (height.trans (le_max_left _ _))]

/-! ## The plan -/

theorem wholeBlocks_eq {bytes : ℕ} (h : bytes < 2 ^ 64) :
    wholeBlocks bytes = bytes / largeBlock * largeBlock :=
  @and_mask_eq bytes h 20 (by decide)

/-- The size of the fixture, without the arithmetic of machine numbers. -/
theorem fixtureBytes_eq (free : Option UInt64) :
    (Plan.forFreeSpace free).fixtureBytes =
      min (max ((free.getD 0).toNat / 8) minFixtureBytes)
        preferredFixtureBytes / largeBlock * largeBlock := by
  have hnone : min (max (0 / 8) minFixtureBytes) preferredFixtureBytes /
      largeBlock * largeBlock = minFixtureBytes := by
    decide
  cases free with
  | none => exact hnone.symm
  | some free =>
      rw [Option.getD_some, Plan.forFreeSpace]
      by_cases hpos : 0 < free
      · have hnat : 0 < free.toNat := hpos
        have hknown : (some free).filter (fun free => decide (0 < free)) =
            some free :=
          Option.filter_some_pos (decide_eq_true hpos)
        rw [hknown]
        dsimp only
        rw [clamped_affordable hnat, wholeBlocks_eq]
        · refine max_eq_left ?_
          have hlimits : minFixtureBytes ≤
              min (max (free.toNat / 8) minFixtureBytes)
                preferredFixtureBytes :=
            le_min (le_max_right _ _) (by decide)
          calc
            largeBlock ≤ minFixtureBytes / largeBlock * largeBlock := by decide
            _ ≤ _ := Nat.mul_le_mul_right _ (Nat.div_le_div_right hlimits)
        · exact (min_le_right _ _).trans_lt (by decide)
      · have hzero : free.toNat = 0 :=
          Nat.eq_zero_of_not_pos hpos
        have hunknown : (some free).filter (fun free => decide (0 < free)) =
            none :=
          Option.filter_some_neg (by simpa using hpos)
        rw [hunknown, hzero]
        exact hnone.symm

/-- What the fixture may be if it is written at all, and that more space does
not give less. -/
structure TakesItsShare (free : Option UInt64) : Prop where
  written : (Plan.forFreeSpace free).fitsIn free = true →
    0 < (Plan.forFreeSpace free).fixtureBytes ∧
    largeBlock ∣ (Plan.forFreeSpace free).fixtureBytes ∧
    (Plan.forFreeSpace free).fixtureBytes ≤ preferredFixtureBytes ∧
    minFixtureBytes ≤ (Plan.forFreeSpace free).fixtureBytes ∧
    8 * (Plan.forFreeSpace free).fixtureBytes ≤ (free.getD 0).toNat
  monotone : ∀ more : Option UInt64, free.getD 0 ≤ more.getD 0 →
    (Plan.forFreeSpace free).fixtureBytes ≤
      (Plan.forFreeSpace more).fixtureBytes

theorem fixtureBytes_mono {free more : Option UInt64}
    (h : free.getD 0 ≤ more.getD 0) :
    (Plan.forFreeSpace free).fixtureBytes ≤
      (Plan.forFreeSpace more).fixtureBytes := by
  rw [fixtureBytes_eq, fixtureBytes_eq]
  refine Nat.mul_le_mul_right _ (Nat.div_le_div_right ?_)
  exact min_le_min_right _ (max_le_max_right _ (Nat.div_le_div_right h))

/-- The size is within its limits, whether it is written or not. -/
theorem fixtureBytes_limits (free : Option UInt64) :
    largeBlock ∣ (Plan.forFreeSpace free).fixtureBytes ∧
      minFixtureBytes ≤ (Plan.forFreeSpace free).fixtureBytes ∧
        (Plan.forFreeSpace free).fixtureBytes ≤ preferredFixtureBytes := by
  rw [fixtureBytes_eq]
  refine ⟨Nat.dvd_mul_left _ _, ?_, ?_⟩
  · have hleast : minFixtureBytes ≤
        min (max ((free.getD 0).toNat / 8) minFixtureBytes)
          preferredFixtureBytes :=
      le_min (le_max_right _ _) (by decide)
    calc
      minFixtureBytes ≤ minFixtureBytes / largeBlock * largeBlock := by decide
      _ ≤ _ := Nat.mul_le_mul_right _ (Nat.div_le_div_right hleast)
  · exact (Nat.div_mul_le_self _ _).trans (min_le_right _ _)

/-- The fixture stays inside its share exactly when an eighth of the space holds
the smallest fixture, or nothing is written. -/
theorem takesItsShare_iff (free : Option UInt64) :
    TakesItsShare free ↔ ∀ bytes ∈ free,
      bytes.toNat ≤ minFixtureBytes ∨ 8 * minFixtureBytes ≤ bytes.toNat := by
  obtain ⟨hblocks, hleast, hmost⟩ := fixtureBytes_limits free
  constructor
  · rintro ⟨hwritten, -⟩ bytes hbytes
    obtain rfl := Option.mem_def.mp hbytes
    by_contra hbetween
    push Not at hbetween
    obtain ⟨hlow, hhigh⟩ := hbetween
    have hsize : (Plan.forFreeSpace (some bytes)).fixtureBytes =
        minFixtureBytes := by
      have height : bytes.toNat / 8 ≤ minFixtureBytes := by
        omega
      rw [fixtureBytes_eq, Option.getD_some, max_eq_right height]
      decide
    have hfits : (Plan.forFreeSpace (some bytes)).fitsIn (some bytes) =
        true := by
      rw [Plan.fitsIn, hsize]
      exact decide_eq_true hlow
    obtain ⟨-, -, -, -, hshare⟩ := hwritten hfits
    rw [hsize, Option.getD_some] at hshare
    omega
  · intro hcond
    refine ⟨fun hfits => ?_, fun more => fixtureBytes_mono⟩
    refine ⟨(by decide : 0 < minFixtureBytes).trans_le hleast, hblocks, hmost,
      hleast, ?_⟩
    cases free with
    | none => exact absurd hfits Bool.false_ne_true
    | some bytes =>
        have hlt : (Plan.forFreeSpace (some bytes)).fixtureBytes <
            bytes.toNat :=
          of_decide_eq_true hfits
        have hroom : minFixtureBytes ≤ bytes.toNat / 8 := by
          rcases hcond bytes rfl with hlow | hhigh
          · omega
          · omega
        rw [fixtureBytes_eq, Option.getD_some, max_eq_left hroom]
        calc
          8 * (min (bytes.toNat / 8) preferredFixtureBytes / largeBlock *
              largeBlock) ≤ 8 * (bytes.toNat / 8) :=
            Nat.mul_le_mul_left 8
              ((Nat.div_mul_le_self _ _).trans (min_le_left _ _))
          _ ≤ bytes.toNat := Nat.mul_div_le _ _

/-- On a disk with 65 MiB left, the fixture takes all but one of them. -/
theorem not_takesItsShare : ¬ TakesItsShare (some (65 * 2 ^ 20)) := by
  rintro ⟨hwritten, -⟩
  have hsize : (Plan.forFreeSpace (some (65 * 2 ^ 20))).fixtureBytes =
      minFixtureBytes := by
    rw [fixtureBytes_eq]
    decide
  have hfits : (Plan.forFreeSpace (some (65 * 2 ^ 20))).fitsIn
      (some (65 * 2 ^ 20)) = true := by
    rw [Plan.fitsIn, hsize]
    decide
  obtain ⟨-, -, -, -, hshare⟩ := hwritten hfits
  rw [hsize] at hshare
  exact absurd hshare (by decide)

end StorageMixed

end Darcbench
