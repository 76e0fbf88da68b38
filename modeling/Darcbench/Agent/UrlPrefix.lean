import Darcbench.Agent.Proxy
import Darcbench.Support.Directives
import Mathlib

/-!
# The prefix in the snippet

The prefix is written into a file that a web server executes.  What the check
accepts consists of characters that are part of a word wherever they stand, so
that the directives of the snippet are the same whatever the prefix is.

The check of the length comes before the slash is put at the end.
-/

namespace Darcbench

open Directives

/-- The characters that a prefix may contain. -/
def isLocationChar (c : Char) : Bool :=
  c.isAlphanum || ['/', '-', '_', '.', '~'].contains c

/-- What an accepted prefix is. -/
structure IsLocation (location : String) : Prop where
  head : location.toList.head? = some '/'
  length : location.utf8ByteSize ≤ 128
  chars : ∀ c ∈ location.toList, isLocationChar c = true
  dots : ¬ ['.', '.'] <:+: location.toList

theorem toNat_lt_of_isAlphanum {c : Char} (h : c.isAlphanum = true) :
    c.toNat < 128 := by
  simp only [Char.isAlphanum, Char.isAlpha, Char.isUpper, Char.isLower,
    Char.isDigit, ge_iff_le, Bool.or_eq_true, Bool.and_eq_true,
    decide_eq_true_eq, UInt32.le_iff_toNat_le] at h
  change c.val.toNat < 128
  have hlast : 'Z'.val.toNat < 128 ∧ 'z'.val.toNat < 128 ∧
      '9'.val.toNat < 128 := by
    decide
  omega

/-- A character of a prefix is part of a word wherever it stands. -/
theorem plain_of_isLocationChar {c : Char} (h : isLocationChar c = true) :
    isSeparator c = false ∧ c ≠ '#' := by
  have hascii : c.toNat < 128 := by
    rcases Bool.or_eq_true_iff.mp h with h | h
    · exact toNat_lt_of_isAlphanum h
    · simp only [List.contains_eq_mem, decide_eq_true_eq, List.mem_cons,
        List.not_mem_nil, or_false] at h
      rcases h with rfl | rfl | rfl | rfl | rfl <;> decide
  have hall : ∀ n < 128, isLocationChar (Char.ofNat n) = true →
      isSeparator (Char.ofNat n) = false ∧ Char.ofNat n ≠ '#' := by
    decide
  have hc := hall c.toNat hascii
  rw [Char.ofNat_toNat] at hc
  exact hc h

theorem isPlain_toString (n : ℕ) : IsPlain (toString n).toList := by
  rw [Nat.toString_eq_repr, Nat.toList_repr]
  intro c hc
  have hdigit := Nat.isDigit_of_mem_toDigits (by decide) (by decide) hc
  refine plain_of_isLocationChar ?_
  rw [isLocationChar, Char.isAlphanum, hdigit, Bool.or_true, Bool.true_or]

theorem IsLocation.isPlain {location : String} (h : IsLocation location) :
    IsPlain location.toList :=
  fun c hc => plain_of_isLocationChar (h.chars c hc)

theorem IsLocation.ne_nil {location : String} (h : IsLocation location) :
    location.toList ≠ [] := by
  intro hnil
  have hhead := h.head
  rw [hnil] at hhead
  cases hhead

/-! ## The check -/

theorem validateLocation_eq_ok_iff {location result : String} :
    validateLocation location = .ok result ↔
      IsLocation location ∧
        result = if location.toList.getLast? = some '/' then location
          else location ++ "/" := by
  unfold validateLocation
  constructor
  · intro h
    simp only at h
    split at h
    · cases h
    · next hhead =>
      split at h
      · cases h
      · next hlength =>
        split at h
        · cases h
        · next hchars =>
          rw [Bool.not_eq_true', Bool.not_eq_false, List.all_eq_true]
            at hchars
          split at h
          · cases h
          · next hdots =>
            refine ⟨⟨not_not.mp hhead, not_lt.mp hlength, hchars, hdots⟩, ?_⟩
            split at h
            · next hlast =>
              cases h
              rw [if_pos hlast]
            · next hlast =>
              cases h
              rw [if_neg hlast]
  · rintro ⟨⟨hhead, hlength, hchars, hdots⟩, rfl⟩
    have hall : ¬ (!location.toList.all fun c =>
        c.isAlphanum || ['/', '-', '_', '.', '~'].contains c) = true := by
      rw [Bool.not_eq_true', Bool.not_eq_false, List.all_eq_true]
      exact hchars
    simp only [if_neg (not_not.mpr hhead), if_neg (not_lt.mpr hlength),
      if_neg hall, if_neg hdots]
    split_ifs <;> rfl

/-- A prefix in normal form. -/
structure IsNormalLocation (location : String) : Prop extends
    IsLocation location where
  last : location.toList.getLast? = some '/'
  again : validateLocation location = .ok location

theorem IsLocation.normal {location : String} (h : IsLocation location)
    (hlast : location.toList.getLast? = some '/') :
    IsNormalLocation location where
  toIsLocation := h
  last := hlast
  again := validateLocation_eq_ok_iff.mpr ⟨h, (if_pos hlast).symm⟩

/-- A slash can be put at the end of a prefix that is not too long. -/
theorem IsLocation.append_slash_iff {location : String}
    (h : IsLocation location) :
    IsLocation (location ++ "/") ↔ location.utf8ByteSize < 128 := by
  have hchars : ∀ c ∈ (location ++ "/").toList, isLocationChar c = true := by
    intro c hc
    rw [String.toList_append] at hc
    rcases List.mem_append.mp hc with hc | hc
    · exact h.chars c hc
    · cases List.mem_singleton.mp hc
      decide
  have hdots : ¬ ['.', '.'] <:+: (location ++ "/").toList := by
    rw [String.toList_append]
    intro hinfix
    rcases List.infix_concat_iff.mp hinfix with hsuffix | hinfix
    · obtain ⟨before, hbefore⟩ := hsuffix
      have hend := congrArg List.getLast? hbefore
      rw [List.getLast?_append, List.getLast?_concat] at hend
      exact absurd (Option.some.inj hend) (by decide : '.' ≠ '/')
    · exact h.dots hinfix
  have hlength : (location ++ "/").utf8ByteSize =
      location.utf8ByteSize + 1 := by
    rw [String.utf8ByteSize_append]
    rfl
  constructor
  · intro hslash
    have hbytes := hslash.length
    omega
  · intro hshort
    refine ⟨?_, by omega, hchars, hdots⟩
    rw [String.toList_append, List.head?_append, h.head]
    rfl

/-- The result of the check is in normal form, unless the slash makes it too
long. -/
theorem isNormalLocation_iff {location result : String}
    (h : validateLocation location = .ok result) :
    IsNormalLocation result ↔
      location.toList.getLast? = some '/' ∨ location.utf8ByteSize < 128 := by
  obtain ⟨hlocation, rfl⟩ := validateLocation_eq_ok_iff.mp h
  by_cases hlast : location.toList.getLast? = some '/'
  · rw [if_pos hlast]
    exact iff_of_true (hlocation.normal hlast) (.inl hlast)
  · rw [if_neg hlast, or_iff_right hlast, ← hlocation.append_slash_iff]
    refine ⟨fun hnormal => hnormal.toIsLocation, fun hslash => ?_⟩
    refine hslash.normal ?_
    rw [String.toList_append]
    exact List.getLast?_concat

/-! ## The snippet -/

section Snippet

variable {first second : String} (hfirst : IsPlain first.toList)
  (hfirstne : first.toList ≠ []) (hsecond : IsPlain second.toList)
  (hsecondne : second.toList ≠ [])

include hfirst hfirstne hsecond hsecondne

theorem generate_nginx_alike {layout : Layout} (h : layout.server = .nginx)
    (port : UInt16) :
    Alike first.toList second.toList .start
      (generate layout port first).toList
      (generate layout port second).toList := by
  have hport := isPlain_toString port.toNat
  simp only [generate, h, String.toList_append, List.append_assoc]
  -- The header, up to the name of the block.
  iterate 16 refine .piece ?_
  refine .bareHole hfirst hfirstne hsecond hsecondne (by decide)
    (by decide) (by decide) (by decide) ?_
  iterate 2 refine .piece ?_
  refine .hole hport hfirst hfirstne hsecond hsecondne (by decide)
    (by decide) (by decide) (by decide) ?_
  exact .refl _ _ _ _

theorem generate_apache_alike {layout : Layout} (h : layout.server = .apache)
    (port : UInt16) :
    Alike first.toList second.toList .start
      (generate layout port first).toList
      (generate layout port second).toList := by
  have hport := isPlain_toString port.toNat
  simp only [generate, h, String.toList_append, List.append_assoc]
  -- The header, up to the name of the tag.
  iterate 19 refine .piece ?_
  refine .bareHole hfirst hfirstne hsecond hsecondne (by decide)
    (by decide) (by decide) (by decide) ?_
  iterate 2 refine .piece ?_
  refine .hole hport hfirst hfirstne hsecond hsecondne (by decide)
    (by decide) (by decide) (by decide) ?_
  iterate 2 refine .piece ?_
  refine .hole hport hfirst hfirstne hsecond hsecondne (by decide)
    (by decide) (by decide) (by decide) ?_
  exact .refl _ _ _ _

/-- The directives of the snippet do not depend on the prefix. -/
theorem generate_alike (layout : Layout) (port : UInt16) :
    List.Forall₂ (SameLine first.toList second.toList)
      (directives (generate layout port first).toList)
      (directives (generate layout port second).toList) := by
  cases h : layout.server with
  | nginx => exact generate_nginx_alike hfirst hfirstne hsecond hsecondne h port
  | apache =>
      exact generate_apache_alike hfirst hfirstne hsecond hsecondne h port

end Snippet

/-- What is written has the directives of the snippet for the whole site, but
for one argument in a line, and closes what it opens. -/
structure KeepsStructure (location : String) (layout : Layout)
    (port : UInt16) : Prop where
  lines : List.Forall₂ (SameLine location.toList "/".toList)
    (directives (generate layout port location).toList)
    (directives (generate layout port "/").toList)
  balanced : IsBalanced (directives (generate layout port location).toList)

theorem isPlain_port (port : UInt16) :
    IsPlain ((toString port.toNat).toList ++ "/".toList) :=
  (isPlain_toString port.toNat).append (by decide)

theorem port_ne_nil (port : UInt16) :
    (toString port.toNat).toList ++ "/".toList ≠ [] :=
  List.append_ne_nil_of_right_ne_nil _ (by decide)

/-- The port stands in front of the prefix, so that it is part of what can be
filled in. -/
theorem generate_port_alike (layout : Layout) (port other : UInt16) :
    List.Forall₂ (SameLine ((toString port.toNat).toList ++ "/".toList)
        ((toString other.toNat).toList ++ "/".toList))
      (directives (generate layout port "/").toList)
      (directives (generate layout other "/").toList) := by
  have hport := isPlain_port port
  have hother := isPlain_port other
  change Alike _ _ .start _ _
  cases h : layout.server with
  | nginx =>
      simp only [generate, h, String.toList_append, List.append_assoc]
      iterate 20 refine .piece ?_
      refine .join ?_
      refine .bareHole hport (port_ne_nil port) hother (port_ne_nil other)
        (by decide) (by decide) (by decide)
        (by decide) ?_
      exact .refl _ _ _ _
  | apache =>
      simp only [generate, h, String.toList_append, List.append_assoc]
      iterate 23 refine .piece ?_
      refine .join ?_
      refine .bareHole hport (port_ne_nil port) hother (port_ne_nil other)
        (by decide) (by decide) (by decide)
        (by decide) ?_
      iterate 2 refine .piece ?_
      refine .join ?_
      refine .bareHole hport (port_ne_nil port) hother (port_ne_nil other)
        (by decide) (by decide) (by decide)
        (by decide) ?_
      exact .refl _ _ _ _

/-- The snippet for the whole site closes what it opens. -/
theorem isBalanced_generate (layout : Layout) (port : UInt16) :
    IsBalanced (directives (generate layout port "/").toList) := by
  refine (isBalanced_of_sameLine (isPlain_port port) (port_ne_nil port)
    (isPlain_port 0) (port_ne_nil 0) (generate_port_alike layout port 0)).mpr ?_
  cases h : layout.server with
  | nginx =>
      simp only [generate, h, String.toList_append, directives,
        Scan.run_append]
      repeat rw [String.toList_ofList]
      decide +kernel
  | apache =>
      simp only [generate, h, String.toList_append, directives,
        Scan.run_append]
      repeat rw [String.toList_ofList]
      decide +kernel

theorem IsLocation.keepsStructure {location : String}
    (h : IsLocation location) (layout : Layout) (port : UInt16) :
    KeepsStructure location layout port := by
  have hslash : IsPlain "/".toList := by decide
  have hlines := generate_alike h.isPlain h.ne_nil hslash (by decide) layout
    port
  exact ⟨hlines, (isBalanced_of_sameLine h.isPlain h.ne_nil hslash (by decide)
    hlines).mpr (isBalanced_generate layout port)⟩

/-- What is accepted is in normal form and keeps the structure of the snippet,
exactly if it ends with a slash or leaves room for one. -/
theorem validateLocation_safe_iff {location result : String}
    (h : validateLocation location = .ok result) :
    (IsNormalLocation result ∧
        ∀ layout port, KeepsStructure result layout port) ↔
      location.toList.getLast? = some '/' ∨ location.utf8ByteSize < 128 := by
  rw [← isNormalLocation_iff h]
  exact ⟨And.left, fun hnormal =>
    ⟨hnormal, fun layout port => hnormal.toIsLocation.keepsStructure layout port⟩⟩

theorem validateLocation_safe_iff_stats :
    (IsNormalLocation "/stats/" ∧
        ∀ layout port, KeepsStructure "/stats/" layout port) ↔
      "/stats".toList.getLast? = some '/' ∨ "/stats".utf8ByteSize < 128 :=
  validateLocation_safe_iff (by decide)

/-- A prefix of the greatest length, without a slash at its end. -/
def longLocation : String :=
  String.ofList ('/' :: List.replicate 127 'a')

theorem not_isNormalLocation_longLocation :
    ¬ ∀ location result, validateLocation location = .ok result →
      IsNormalLocation result ∧
        ∀ layout port, KeepsStructure result layout port := by
  intro h
  have hlong : validateLocation longLocation = .ok (longLocation ++ "/") := by
    decide +kernel
  have hnormal := (h _ _ hlong).1
  have hrefused : validateLocation (longLocation ++ "/") ≠
      .ok (longLocation ++ "/") := by
    decide +kernel
  exact hrefused hnormal.again

end Darcbench
