import Darcbench.Support.Saturating
import Mathlib.Data.List.TakeWhile

/-!
# Words and numbers of a text

The pieces into which the readers of system files break a text.
-/

namespace Darcbench

namespace Words

/-- White space, as Unicode has it. -/
def isWhiteSpace (c : Char) : Bool :=
  let n := c.toNat
  (0x9 ≤ n && n ≤ 0xd) || n == 0x20 || n == 0x85 || n == 0xa0 ||
    n == 0x1680 || (0x2000 ≤ n && n ≤ 0x200a) || n == 0x2028 ||
    n == 0x2029 || n == 0x202f || n == 0x205f || n == 0x3000

/-- The stretches of a text between white space. -/
def splitWhitespace (text : List Char) : List (List Char) :=
  (text.splitOnP isWhiteSpace).filter (!·.isEmpty)

/-- A text without the white space at its ends. -/
def trim (text : List Char) : List Char :=
  ((text.dropWhile isWhiteSpace).reverse.dropWhile isWhiteSpace).reverse

/-- What follows the last occurrence of a character. -/
def afterLast (c : Char) (text : List Char) : Option (List Char) :=
  if c ∈ text then (text.splitOn c).getLast? else none

def digit? (c : Char) : Option ℕ :=
  if '0' ≤ c ∧ c ≤ '9' then some (c.toNat - '0'.toNat) else none

/-- A 64-bit unsigned number in decimal. -/
def parseU64 (text : List Char) : Option ℕ := do
  let digits := if text.head? = some '+' then text.tail else text
  if digits.isEmpty then none
  let values ← digits.mapM digit?
  let value := values.foldl (fun value d => value * 10 + d) 0
  if value ≤ u64Max then some value else none

/-- The lines of a text of which `line` has been read.  A carriage return
before a line feed belongs to the break. -/
def linesFrom (line : List Char) : List Char → List (List Char)
  | [] => if line.isEmpty then [] else [line]
  | c :: rest =>
      if c = '\n' then
        (if line.getLast? = some '\r' then line.dropLast else line) ::
          linesFrom [] rest
      else linesFrom (line ++ [c]) rest

def lines (text : List Char) : List (List Char) :=
  linesFrom [] text

def trimEnd (text : List Char) : List Char :=
  (text.reverse.dropWhile isWhiteSpace).reverse

/-- What stands before and behind the first occurrence of a character. -/
def splitOnce (c : Char) (text : List Char) :
    Option (List Char × List Char) :=
  if c ∈ text then
    some (text.takeWhile (· ≠ c), (text.dropWhile (· ≠ c)).tail)
  else none

theorem splitOnce_eq_some_iff {c : Char} {text head rest : List Char} :
    splitOnce c text = some (head, rest) ↔
      text = head ++ c :: rest ∧ c ∉ head := by
  constructor
  · intro h
    rw [splitOnce] at h
    split at h
    · next hmem =>
        obtain ⟨rfl, rfl⟩ := Prod.mk.inj (Option.some.inj h)
        have hne : text.dropWhile (· ≠ c) ≠ [] := by
          rw [Ne, List.dropWhile_eq_nil_iff]
          exact fun hall => by simpa using hall c hmem
        have hhead := List.head_dropWhile_not (· ≠ c) hne
        have hcons := List.cons_head_tail hne
        have hc : (text.dropWhile (· ≠ c)).head hne = c := by
          simpa using hhead
        rw [hc] at hcons
        refine ⟨?_, ?_⟩
        · rw [hcons, List.takeWhile_append_dropWhile]
        · intro hin
          simpa using List.mem_takeWhile_imp hin
    · exact absurd h (by simp)
  · rintro ⟨rfl, hnot⟩
    have hall : ∀ a ∈ head, (decide (a ≠ c)) = true := by
      intro a ha
      exact decide_eq_true (ne_of_mem_of_not_mem ha hnot)
    have hstop : decide (c ≠ c) = false :=
      decide_eq_false fun h => h rfl
    rw [splitOnce, if_pos (List.mem_append_right _ List.mem_cons_self),
      List.takeWhile_append_of_pos hall, List.dropWhile_append_of_pos hall,
      List.takeWhile_cons_of_neg (by simp),
      List.dropWhile_cons_of_neg (by simp), List.append_nil, List.tail_cons]

theorem length_lt_of_splitOnce {c : Char} {text head rest : List Char}
    (h : splitOnce c text = some (head, rest)) :
    rest.length < text.length := by
  rw [(splitOnce_eq_some_iff.mp h).1, List.length_append, List.length_cons]
  omega

/-- What stands before and behind the last occurrence of a character. -/
def rsplitOnce (c : Char) (text : List Char) :
    Option (List Char × List Char) :=
  (splitOnce c text.reverse).map fun parts =>
    (parts.2.reverse, parts.1.reverse)

/-- A 16-bit unsigned number in decimal. -/
def parseU16 (text : List Char) : Option ℕ :=
  (parseU64 text).filter (· < 65536)

/-- The characters from the front whose bytes do not exceed a limit. -/
def takeBytes : ℕ → List Char → List Char
  | _, [] => []
  | limit, c :: rest =>
      if c.utf8Size ≤ limit then c :: takeBytes (limit - c.utf8Size) rest
      else []

/-! ## Canonical decimals -/

theorem digit?_of_isDigit {c : Char} (h : c.isDigit = true) :
    digit? c = some (c.toNat - '0'.toNat) := by
  rw [Char.isDigit, Bool.and_eq_true, decide_eq_true_eq,
    decide_eq_true_eq] at h
  exact if_pos h

theorem parseU64_of_isDigit {digits : List Char} (hne : digits ≠ [])
    (h : ∀ c ∈ digits, c.isDigit = true) :
    parseU64 digits =
      if Nat.ofDigitChars 10 digits 0 ≤ u64Max then
        some (Nat.ofDigitChars 10 digits 0)
      else none := by
  have hplus : digits.head? ≠ some '+' := by
    intro hplus
    exact absurd (h _ (List.mem_of_head? hplus)) (by decide)
  have hvalues : digits.mapM digit? =
      some (digits.map fun c => c.toNat - '0'.toNat) := by
    clear hne hplus
    induction digits with
    | nil => rfl
    | cons c rest ih =>
        rw [List.mapM_cons, digit?_of_isDigit (h c List.mem_cons_self),
          ih fun d hd => h d (List.mem_cons_of_mem _ hd)]
        rfl
  have hvalue : (digits.map fun c => c.toNat - '0'.toNat).foldl
      (fun value d => value * 10 + d) 0 = Nat.ofDigitChars 10 digits 0 := by
    rw [List.foldl_map, Nat.ofDigitChars_eq_foldl]
    simp only [Nat.mul_comm]
  rw [parseU64, if_neg hplus]
  dsimp only
  rw [if_neg (by simpa using hne), hvalues, Option.bind_eq_bind,
    Option.bind_some, hvalue]

theorem digitChar_of_isDigit {c : Char} (h : c.isDigit = true) :
    Nat.digitChar (c.toNat - '0'.toNat) = c ∧ c.toNat - '0'.toNat < 10 := by
  rw [Char.isDigit, Bool.and_eq_true, decide_eq_true_eq, decide_eq_true_eq,
    ge_iff_le, UInt32.le_iff_toNat_le, UInt32.le_iff_toNat_le] at h
  have hlow : '0'.toNat ≤ c.toNat := h.1
  have hhigh : c.toNat ≤ '9'.toNat := h.2
  have hlt : c.toNat - '0'.toNat < 10 :=
    Nat.sub_lt_left_of_lt_add hlow (Nat.lt_succ_of_le hhigh)
  refine ⟨?_, hlt⟩
  apply Char.toNat_inj.mp
  rw [Nat.toNat_digitChar_of_lt_ten hlt]
  exact Nat.add_sub_cancel' hlow

theorem toDigits_ofDigitChars {digits : List Char} {n : ℕ} (hn : 0 < n)
    (h : ∀ c ∈ digits, c.isDigit = true) :
    Nat.toDigits 10 (Nat.ofDigitChars 10 digits n) =
      Nat.toDigits 10 n ++ digits := by
  induction digits generalizing n with
  | nil => rw [Nat.ofDigitChars_nil, List.append_nil]
  | cons c rest ih =>
      obtain ⟨hchar, hlt⟩ := digitChar_of_isDigit (h c List.mem_cons_self)
      rw [Nat.ofDigitChars_cons,
        ih (by omega) fun d hd => h d (List.mem_cons_of_mem _ hd),
        ← Nat.toDigits_append_toDigits (by decide) hn hlt,
        Nat.toDigits_of_lt_base hlt, hchar, List.append_assoc]
      rfl

theorem head?_toDigits {n : ℕ} (h : 10 ≤ n) :
    (Nat.toDigits 10 n).head? ≠ some '0' := by
  induction n using Nat.strongRecOn with
  | ind n ih =>
      rw [Nat.toDigits_of_base_le (by decide) h,
        List.head?_append_of_ne_nil _ Nat.toDigits_ne_nil]
      by_cases hlt : n / 10 < 10
      · rw [Nat.toDigits_of_lt_base hlt]
        intro hzero
        have := Option.some.inj hzero
        rw [Nat.digitChar_eq_zero] at this
        omega
      · exact ih (n / 10) (by omega) (by omega)

/-- A text is the canonical decimal of a number exactly if it is made of digits,
has no needless zero, and reads as that number. -/
theorem eq_toDigits_iff {digits : List Char} {n : ℕ} :
    digits = Nat.toDigits 10 n ∧ n ≤ u64Max ↔
      digits ≠ [] ∧ (∀ c ∈ digits, c.isDigit = true) ∧
        ¬ (1 < digits.length ∧ digits.head? = some '0') ∧
          parseU64 digits = some n := by
  constructor
  · rintro ⟨rfl, hn⟩
    have hdigits : ∀ c ∈ Nat.toDigits 10 n, c.isDigit = true :=
      fun c hc => Nat.isDigit_of_mem_toDigits (by decide) (by decide) hc
    refine ⟨Nat.toDigits_ne_nil, hdigits, ?_, ?_⟩
    · rintro ⟨hlength, hzero⟩
      by_cases hlt : n < 10
      · rw [Nat.toDigits_of_lt_base hlt] at hlength
        exact absurd hlength (by simp)
      · exact head?_toDigits (Nat.not_lt.mp hlt) hzero
    · rw [parseU64_of_isDigit Nat.toDigits_ne_nil hdigits,
        Nat.ofDigitChars_ten_toDigits, if_pos hn]
  · rintro ⟨hne, hdigits, hzero, hparse⟩
    rw [parseU64_of_isDigit hne hdigits] at hparse
    split at hparse
    · next hn =>
        obtain rfl := Option.some.inj hparse
        refine ⟨?_, hn⟩
        obtain ⟨c, rest, rfl⟩ := List.exists_cons_of_ne_nil hne
        obtain ⟨hchar, hlt⟩ :=
          digitChar_of_isDigit (hdigits c List.mem_cons_self)
        rw [Nat.ofDigitChars_cons, Nat.mul_zero, Nat.zero_add]
        cases rest with
        | nil =>
            rw [Nat.ofDigitChars_nil, Nat.toDigits_of_lt_base hlt, hchar]
        | cons d rest =>
            have hpos : 0 < c.toNat - '0'.toNat := by
              rw [Nat.pos_iff_ne_zero]
              intro hsub
              rw [hsub] at hchar
              exact hzero ⟨by simp, congrArg some hchar.symm⟩
            rw [toDigits_ofDigitChars hpos fun e he =>
              hdigits e (List.mem_cons_of_mem _ he),
              Nat.toDigits_of_lt_base hlt, hchar]
            rfl
    · exact absurd hparse (by simp)

end Words

example : (Words.splitWhitespace "cpu  12 +7\r".toList).map Words.parseU64 =
    [none, some 12, some 7] := by
  decide

end Darcbench
