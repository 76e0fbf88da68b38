import Darcbench.Protocol.Float
import Darcbench.Support.Words
import Mathlib

/-!
# Numbers as text

The reader of 64-bit floating-point numbers in the standard library: a decimal
with an optional sign, fraction and exponent, or one of the names of a value
that is no number.
-/

namespace Darcbench

namespace F64

variable {F : Type} [F64 F]

/-- A text in lower case. -/
def lowercase (text : List Char) : List Char :=
  text.map Char.toLower

/-- The digits at the front of a text, and what follows them. -/
def spanDigits (text : List Char) : List Char × List Char :=
  (text.takeWhile Char.isDigit, text.dropWhile Char.isDigit)

/-- A text of digits only, with at least one of them. -/
def parseDigits (text : List Char) : Option ℕ :=
  if text.isEmpty || !text.all Char.isDigit then none
  else some (Nat.ofDigitChars 10 text 0)

/-- The exponent of a decimal, or nothing at its place. -/
def parseExponent : List Char → Option ℤ
  | [] => some 0
  | c :: rest =>
      if c ≠ 'e' ∧ c ≠ 'E' then none
      else
        match rest with
        | '-' :: digits => (parseDigits digits).map fun n => -(n : ℤ)
        | '+' :: digits => (parseDigits digits).map Int.ofNat
        | digits => (parseDigits digits).map Int.ofNat

/-- A decimal number from its digits and its exponent. -/
def ofDecimal (digits : ℕ) : ℤ → F
  | 0 => F64.ofNat digits
  | .ofNat exponent => OfScientific.ofScientific digits false exponent
  | .negSucc exponent => OfScientific.ofScientific digits true (exponent + 1)

/-- The digits of a fraction, and what follows them. -/
def spanFraction : List Char → List Char × List Char
  | '.' :: rest => spanDigits rest
  | rest => ([], rest)

/-- A number without a sign. -/
def parseUnsigned (text : List Char) : Option F :=
  let whole := spanDigits text
  let fraction := spanFraction whole.2
  if whole.1.isEmpty && fraction.1.isEmpty then
    none
  else
    (parseExponent fraction.2).map fun exponent =>
      ofDecimal (Nat.ofDigitChars 10 (whole.1 ++ fraction.1) 0)
        (exponent - fraction.1.length)

/-- A value without a sign. -/
def parseMagnitude (text : List Char) : Option F :=
  let name := lowercase text
  if name = ['i', 'n', 'f'] ∨
      name = ['i', 'n', 'f', 'i', 'n', 'i', 't', 'y'] then
    some (1.0 / 0.0)
  else if name = ['n', 'a', 'n'] then
    some (0.0 / 0.0)
  else
    parseUnsigned text

/-- The number that a text stands for. -/
def parse : List Char → Option F
  | '+' :: text => parseMagnitude text
  | '-' :: text => (parseMagnitude text).map fun a => (0.0 - 1.0) * a
  | text => parseMagnitude text

/-! ## Canonical decimals -/

theorem spanDigits_of_isDigit {digits : List Char}
    (h : ∀ c ∈ digits, c.isDigit = true) : spanDigits digits = (digits, []) :=
  Prod.ext (List.takeWhile_eq_self_iff.mpr h) (List.dropWhile_eq_nil_iff.mpr h)

theorem head_isDigit {digits : List Char} (hne : digits ≠ [])
    (h : ∀ c ∈ digits, c.isDigit = true) :
    ∃ c rest, digits = c :: rest ∧ c.isDigit = true := by
  obtain ⟨c, rest, rfl⟩ := List.exists_cons_of_ne_nil hne
  exact ⟨c, rest, rfl, h c List.mem_cons_self⟩

/-- Plain digits stand for the integer that they denote. -/
theorem parse_digits {digits : List Char} (hne : digits ≠ [])
    (h : ∀ c ∈ digits, c.isDigit = true) :
    (parse digits : Option F) =
      some (F64.ofNat (Nat.ofDigitChars 10 digits 0)) := by
  obtain ⟨c, rest, hcons, hc⟩ := head_isDigit hne h
  have hname : ∀ (d : Char) (name : List Char), d.isDigit = false →
      lowercase digits ≠ d :: name := by
    intro d name hd heq
    rw [hcons, lowercase, List.map_cons] at heq
    have hlower : c.toLower = c := by
      rw [Char.toLower, dif_neg]
      intro hupper
      rw [Char.isDigit, Bool.and_eq_true, decide_eq_true_eq,
        decide_eq_true_eq] at hc
      exact absurd (UInt32.le_trans hupper.1 hc.2) (by decide)
    rw [hlower] at heq
    rw [(List.cons.inj heq).1, hd] at hc
    exact Bool.false_ne_true hc
  have hmagnitude : (parseMagnitude digits : Option F) =
      some (F64.ofNat (Nat.ofDigitChars 10 digits 0)) := by
    rw [parseMagnitude, if_neg, if_neg (hname _ _ rfl), parseUnsigned,
      spanDigits_of_isDigit h]
    · refine (if_neg ?_).trans ?_
      · rw [List.isEmpty_eq_false_iff.mpr hne]
        exact Bool.false_ne_true
      · rw [spanFraction, parseExponent, List.append_nil]
        · rfl
        · exact fun _ h => absurd h (List.cons_ne_nil _ _).symm
    · rintro (heq | heq)
      · exact hname _ _ rfl heq
      · exact hname _ _ rfl heq
  have hsign : ∀ d : Char, d.isDigit = false → c ≠ d := by
    rintro d hd rfl
    rw [hd] at hc
    exact Bool.false_ne_true hc
  rw [hcons, parse]
  · rw [← hcons]
    exact hmagnitude
  · intro text heq
    exact hsign '+' rfl (List.cons.inj heq).1
  · intro text heq
    exact hsign '-' rfl (List.cons.inj heq).1

theorem isDigit_of_mem_toDigits {n : ℕ} {c : Char}
    (h : c ∈ Nat.toDigits 10 n) : c.isDigit = true :=
  Nat.isDigit_of_mem_toDigits (by decide) (by decide) h

theorem parseDigits_toDigits (n : ℕ) :
    parseDigits (Nat.toDigits 10 n) = some n := by
  rw [parseDigits, if_neg, Nat.ofDigitChars_ten_toDigits]
  rw [List.isEmpty_eq_false_iff.mpr Nat.toDigits_ne_nil, Bool.false_or,
    Bool.not_eq_true', List.all_eq_false]
  rintro ⟨c, hc, hnot⟩
  exact hnot (isDigit_of_mem_toDigits hc)

theorem parse_toDigits (n : ℕ) :
    (parse (Nat.toDigits 10 n) : Option F) = some (F64.ofNat n) := by
  rw [parse_digits Nat.toDigits_ne_nil fun _ => isDigit_of_mem_toDigits,
    Nat.ofDigitChars_ten_toDigits]

end F64

end Darcbench
