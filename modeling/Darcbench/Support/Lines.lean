import Mathlib.Data.List.Basic

/-!
# Lines of text

A text as its bytes, broken into lines after every line feed.  A carriage
return before the line feed belongs to the break, and a last line needs none.
-/

namespace Darcbench

/-- Whether the bytes are text. -/
def isUtf8 (bytes : List UInt8) : Bool :=
  (ByteArray.mk bytes.toArray).validateUTF8

theorem isUtf8_append {first second : List UInt8}
    (hfirst : isUtf8 first = true) (hsecond : isUtf8 second = true) :
    isUtf8 (first ++ second) = true := by
  rw [isUtf8, ByteArray.validateUTF8_eq_true_iff] at hfirst hsecond ⊢
  have happend : ByteArray.mk (first ++ second).toArray =
      ByteArray.mk first.toArray ++ ByteArray.mk second.toArray := by
    apply ByteArray.ext
    simp
  rw [happend]
  exact hfirst.append hsecond

namespace Lines

/-- The line feed. -/
def feed : UInt8 := 10

/-- The carriage return. -/
def carriageReturn : UInt8 := 13

/-- A line without the carriage return at its end. -/
def stripReturn (line : List UInt8) : List UInt8 :=
  if line.getLast? = some carriageReturn then line.dropLast else line

/-- The lines of a text of which `line` has been read. -/
def linesFrom (line : List UInt8) : List UInt8 → List (List UInt8)
  | [] => if line.isEmpty then [] else [line]
  | b :: rest =>
      if b = feed then stripReturn line :: linesFrom [] rest
      else linesFrom (line ++ [b]) rest

/-- The lines of a text. -/
def lines (text : List UInt8) : List (List UInt8) :=
  linesFrom [] text

/-- Whether a line holds nothing but white space. -/
def isBlank : List UInt8 → Bool
  | [] => true
  | 0x09 :: rest | 0x0a :: rest | 0x0b :: rest | 0x0c :: rest
  | 0x0d :: rest | 0x20 :: rest => isBlank rest
  | 0xc2 :: 0x85 :: rest | 0xc2 :: 0xa0 :: rest => isBlank rest
  | 0xe1 :: 0x9a :: 0x80 :: rest => isBlank rest
  | 0xe2 :: 0x80 :: b :: rest =>
      (b ≤ 0x8a || b = 0xa8 || b = 0xa9 || b = 0xaf) && isBlank rest
  | 0xe2 :: 0x81 :: 0x9f :: rest => isBlank rest
  | 0xe3 :: 0x80 :: 0x80 :: rest => isBlank rest
  | _ => false

/-- The text of some lines, with a line feed after each. -/
def terminated (texts : List (List UInt8)) : List UInt8 :=
  texts.flatMap fun text => text ++ [feed]

/-- A text without any line break in it. -/
def Unbroken (text : List UInt8) : Prop :=
  feed ∉ text ∧ carriageReturn ∉ text

theorem stripReturn_of_notMem {line : List UInt8}
    (h : carriageReturn ∉ line) :
    stripReturn line = line := by
  refine if_neg fun hlast => h ?_
  exact List.mem_of_getLast? hlast

/-- Reading goes on to the next line feed. -/
theorem linesFrom_append {text : List UInt8} (h : feed ∉ text)
    (line rest : List UInt8) :
    linesFrom line (text ++ feed :: rest) =
      stripReturn (line ++ text) :: linesFrom [] rest := by
  induction text generalizing line with
  | nil => rw [List.nil_append, linesFrom, if_pos rfl, List.append_nil]
  | cons b text ih =>
      have hb : b ≠ feed := fun heq => h (heq ▸ List.mem_cons_self)
      have htext : feed ∉ text := fun hmem => h (List.mem_cons_of_mem _ hmem)
      rw [List.cons_append, linesFrom, if_neg hb, ih htext, List.append_assoc,
        List.singleton_append]

/-- Lines that are written one after the other are read back. -/
theorem lines_terminated {texts : List (List UInt8)}
    (h : ∀ text ∈ texts, Unbroken text) :
    lines (terminated texts) = texts := by
  induction texts with
  | nil => rfl
  | cons text texts ih =>
      obtain ⟨hfeed, hreturn⟩ := h text List.mem_cons_self
      have hrest := ih fun t ht => h t (List.mem_cons_of_mem _ ht)
      rw [lines] at hrest
      rw [lines, terminated, List.flatMap_cons, List.append_assoc,
        List.singleton_append, linesFrom_append hfeed, List.nil_append,
        stripReturn_of_notMem hreturn]
      exact congrArg _ hrest

end Lines

end Darcbench
