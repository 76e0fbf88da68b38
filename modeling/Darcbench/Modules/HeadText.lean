import Darcbench.Modules.Framing

/-!
# The text of a head

A head is written as lines of ASCII text, each with its line break, and an empty
line.  Such a head ends where it was meant to end, and is read as the lines that
were written.
-/

namespace Darcbench

namespace WebOrigin

/-! ## Bytes of a text -/

/-- The bytes of a text. -/
def utf8 (text : List Char) : List UInt8 :=
  text.flatMap String.utf8EncodeChar

theorem utf8_append (text other : List Char) :
    utf8 (text ++ other) = utf8 text ++ utf8 other :=
  List.flatMap_append

theorem byteArray_loop (bytes : ByteArray) (i : ℕ) (read : List UInt8) :
    ByteArray.toList.loop bytes i read =
      read.reverse ++ bytes.data.toList.drop i := by
  induction hn : bytes.size - i generalizing i read with
  | zero =>
      rw [ByteArray.toList.loop, if_neg (by omega), List.drop_of_length_le,
        List.append_nil]
      rw [Array.length_toList]
      exact Nat.sub_eq_zero_iff_le.mp hn
  | succ n ih =>
      have hlt : i < bytes.data.toList.length := by
        rw [Array.length_toList]
        change i < bytes.size
        omega
      rw [ByteArray.toList.loop, if_pos (by omega), ih (i + 1) _ (by omega),
        List.drop_eq_getElem_cons hlt, List.reverse_cons, List.append_assoc,
        List.singleton_append]
      congr 2
      exact getElem!_pos bytes.data i hlt

theorem toList_toUTF8 (text : String) :
    text.toUTF8.toList = utf8 text.toList := by
  have hdata : text.toUTF8.data.toList = utf8 text.toList := by
    rw [utf8, String.toUTF8, ← String.utf8Encode_toList, List.utf8Encode,
      List.toList_data_toByteArray]
  rw [ByteArray.toList, byteArray_loop, List.drop_zero, hdata]
  rfl

theorem decodeUtf8_utf8 (text : List Char) :
    decodeUtf8 (utf8 text) = some text := by
  have hbytes : ByteArray.mk (utf8 text).toArray =
      (String.ofList text).toByteArray := by
    apply ByteArray.ext
    rw [← Array.toList_inj, List.toList_toArray]
    have hdata := toList_toUTF8 (String.ofList text)
    rw [String.toList_ofList, ByteArray.toList, byteArray_loop] at hdata
    exact hdata.symm
  have hvalid : (ByteArray.mk (utf8 text).toArray).IsValidUTF8 := by
    rw [hbytes]
    exact (String.ofList text).isValidUTF8
  have hdecoded : String.fromUTF8 _ hvalid = String.ofList text :=
    String.toByteArray_inj.mp hbytes
  rw [decodeUtf8, String.fromUTF8?, dif_pos hvalid, Option.map_some, hdecoded,
    String.toList_ofList]

/-! ## Lines of a head -/

/-- A line that may stand in a head. -/
structure IsHeadLine (line : List Char) : Prop where
  ne_nil : line ≠ []
  ascii : ∀ c ∈ line, c.toNat < 128
  unbroken : '\r' ∉ line

/-- The text of a head, without the terminator. -/
def headText : List (List Char) → List Char
  | [] => []
  | [line] => line
  | line :: next :: lines => line ++ '\r' :: '\n' :: headText (next :: lines)

/-- The bytes of a head. -/
def headBytes (lines : List (List Char)) : List UInt8 :=
  utf8 (headText lines) ++ terminator

theorem utf8_of_ascii {c : Char} (h : c.toNat < 128) :
    String.utf8EncodeChar c = [c.val.toUInt8] := by
  apply String.utf8EncodeChar_eq_singleton
  rw [Char.utf8Size, if_pos]
  exact UInt32.le_iff_toNat_le.mpr (Nat.le_of_lt_succ h)

theorem IsHeadLine.notMem_utf8 {line : List Char} (h : IsHeadLine line) :
    13 ∉ utf8 line := by
  intro hmem
  obtain ⟨c, hc, hbyte⟩ := List.mem_flatMap.mp hmem
  rw [utf8_of_ascii (h.ascii c hc), List.mem_singleton] at hbyte
  have hnat : c.toNat = 13 := by
    have hlt := h.ascii c hc
    have hval := congrArg UInt8.toNat hbyte
    rw [UInt32.toNat_toUInt8] at hval
    change 13 = c.toNat % 256 at hval
    omega
  have hreturn : c = '\r' := Char.toNat_inj.mp hnat
  exact h.unbroken (hreturn ▸ hc)

theorem IsHeadLine.utf8_ne_nil {line : List Char} (h : IsHeadLine line) :
    utf8 line ≠ [] := by
  intro hnil
  obtain ⟨c, hc⟩ := List.exists_mem_of_ne_nil line h.ne_nil
  have hbytes := List.flatMap_eq_nil_iff.mp hnil c hc
  rw [utf8_of_ascii (h.ascii c hc)] at hbytes
  exact List.cons_ne_nil _ _ hbytes

/-- Bytes without a carriage return hold no part of a terminator. -/
theorem headEndFrom_append {line rest : List UInt8} (hline : 13 ∉ line)
    (hrest : 3 ≤ rest.length) (n : ℕ) :
    headEndFrom (line ++ rest) n = headEndFrom rest (n + line.length) := by
  induction line generalizing n with
  | nil => rfl
  | cons byte line ih =>
      rw [List.mem_cons, not_or] at hline
      obtain ⟨a, b, c, tail, htail⟩ :
          ∃ a b c tail, line ++ rest = a :: b :: c :: tail := by
        have hlength : 3 ≤ (line ++ rest).length := by
          rw [List.length_append]
          omega
        generalize line ++ rest = bytes at hlength
        obtain _ | ⟨a, _ | ⟨b, _ | ⟨c, tail⟩⟩⟩ := bytes
        · exact absurd hlength (by simp)
        · exact absurd hlength (by simp)
        · exact absurd hlength (by simp)
        · exact ⟨a, b, c, tail, rfl⟩
      have hne : ¬ [byte, a, b, c] = [13, 10, 13, 10] := fun heq =>
        hline.1 (List.cons.inj heq).1.symm
      rw [List.cons_append, htail, headEndFrom, if_neg hne, ← htail,
        ih hline.2, List.length_cons]
      congr 1
      omega

theorem headBytes_cons_cons (line next : List Char)
    (lines : List (List Char)) :
    headBytes (line :: next :: lines) =
      utf8 line ++ 13 :: 10 :: headBytes (next :: lines) := by
  rw [headBytes, headText, utf8_append, List.append_assoc]
  rfl

/-- Behind the first line stands a line break. -/
theorem exists_headBytes_cons (line : List Char) (lines : List (List Char)) :
    ∃ tail, headBytes (line :: lines) = utf8 line ++ 13 :: 10 :: tail := by
  cases lines with
  | nil => exact ⟨[13, 10], rfl⟩
  | cons next lines => exact ⟨_, headBytes_cons_cons line next lines⟩

/-- The lines end where the empty line begins. -/
theorem headEndFrom_headBytes {lines : List (List Char)} (hne : lines ≠ [])
    (h : ∀ line ∈ lines, IsHeadLine line) (more : List UInt8) (n : ℕ) :
    ∃ m, headEndFrom (headBytes lines ++ more) n =
      (some (n + (utf8 (headText lines)).length), m) := by
  induction lines generalizing n with
  | nil => exact absurd rfl hne
  | cons line lines ih =>
      have hline := h line List.mem_cons_self
      cases lines with
      | nil =>
          refine ⟨n + (utf8 line).length, ?_⟩
          rw [headBytes, headText, List.append_assoc,
            headEndFrom_append hline.notMem_utf8 (by simp [terminator])]
          rfl
      | cons next lines =>
          have hnext := h next (List.mem_cons_of_mem _ List.mem_cons_self)
          obtain ⟨m, hm⟩ := ih (List.cons_ne_nil _ _)
            (fun other hother => h other (List.mem_cons_of_mem _ hother))
            (n + (utf8 line).length + 2)
          -- The next line does not begin with a carriage return.
          obtain ⟨tail, htail⟩ := exists_headBytes_cons next lines
          obtain ⟨a, first, ha⟩ := List.exists_cons_of_ne_nil hnext.utf8_ne_nil
          have hreturn : a ≠ 13 := by
            rintro rfl
            exact hnext.notMem_utf8 (ha ▸ List.mem_cons_self)
          rw [htail, ha, List.cons_append, List.cons_append] at hm
          obtain ⟨b, c, rest, hrest⟩ : ∃ b c rest,
              first ++ 13 :: 10 :: tail ++ more = b :: c :: rest := by
            obtain _ | ⟨b, _ | ⟨c, first⟩⟩ := first
            · exact ⟨_, _, _, rfl⟩
            · exact ⟨_, _, _, rfl⟩
            · exact ⟨_, _, _, rfl⟩
          refine ⟨m, ?_⟩
          rw [headBytes_cons_cons, htail, ha, List.append_assoc,
            headEndFrom_append hline.notMem_utf8 (by simp)]
          simp only [List.cons_append]
          rw [hrest] at hm ⊢
          rw [headEndFrom, if_neg (by simp [hreturn]), headEndFrom,
            if_neg (by simp), hm, headText, utf8_append, List.length_append]
          have hbreak : (utf8 ('\r' :: '\n' :: headText (next :: lines))).length =
              (utf8 (headText (next :: lines))).length + 2 := rfl
          rw [hbreak]
          congr 2
          omega

theorem length_headBytes (lines : List (List Char)) :
    (headBytes lines).length = (utf8 (headText lines)).length + 4 := by
  rw [headBytes, List.length_append]
  rfl

/-- Lines that are not too long are a head. -/
theorem isHead_headBytes {lines : List (List Char)} (hne : lines ≠ [])
    (h : ∀ line ∈ lines, IsHeadLine line)
    (hbounded : (headBytes lines).length ≤ maxHeadBytes) :
    IsHead (headBytes lines) where
  ends := List.suffix_append _ _
  first := by
    intro initial hinitial hends
    obtain ⟨before, hbefore⟩ := hends
    obtain ⟨m, hm⟩ := headEndFrom_headBytes hne h [] 0
    obtain ⟨after, hafter⟩ := hinitial
    cases hfind : headEndFrom initial 0 with
    | mk found m' =>
        cases found with
        | none =>
            rw [← hbefore, ← List.append_nil (before ++ terminator)] at hfind
            exact absurd hfind (headEndFrom_ne_none before [] 0 m')
        | some headEnd =>
            obtain ⟨-, hlength, hmore⟩ := headEndFrom_of_some hfind
            have hwhole := hmore after
            rw [hafter, ← List.append_nil (headBytes lines), hm] at hwhole
            have heq := Option.some.inj (congrArg Prod.fst hwhole)
            have hle : (headBytes lines).length ≤ initial.length := by
              rw [length_headBytes]
              omega
            exact List.IsPrefix.eq_of_length_le ⟨after, hafter⟩ hle
  bounded := hbounded

theorem splitCrlf_cons {c : Char} (hc : c ≠ '\r') {rest line : List Char}
    {lines : List (List Char)} (h : splitCrlf rest = line :: lines) :
    splitCrlf (c :: rest) = (c :: line) :: lines := by
  rw [splitCrlf, h]
  rintro rest' rfl
  exact absurd rfl hc

/-- A line break ends a line. -/
theorem splitCrlf_append {line : List Char} (hline : '\r' ∉ line)
    (rest : List Char) :
    splitCrlf (line ++ '\r' :: '\n' :: rest) = line :: splitCrlf rest := by
  induction line with
  | nil => rfl
  | cons c line ih =>
      rw [List.mem_cons, not_or] at hline
      exact splitCrlf_cons (Ne.symm hline.1) (ih hline.2)

theorem splitCrlf_line {line : List Char} (hline : '\r' ∉ line) :
    splitCrlf line = [line] := by
  induction line with
  | nil => rfl
  | cons c line ih =>
      rw [List.mem_cons, not_or] at hline
      exact splitCrlf_cons (Ne.symm hline.1) (ih hline.2)

/-- A head is read as the lines that were written. -/
theorem splitCrlf_headText {lines : List (List Char)} (hne : lines ≠ [])
    (h : ∀ line ∈ lines, IsHeadLine line) :
    splitCrlf (headText lines) = lines := by
  induction lines with
  | nil => exact absurd rfl hne
  | cons line lines ih =>
      have hline := (h line List.mem_cons_self).unbroken
      cases lines with
      | nil => exact splitCrlf_line hline
      | cons next lines =>
          rw [headText, splitCrlf_append hline, ih (List.cons_ne_nil _ _)
            fun other hother => h other (List.mem_cons_of_mem _ hother)]

end WebOrigin

end Darcbench
