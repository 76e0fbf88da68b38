import Darcbench.Support.Words

/-!
# White space at the ends of a text

Trimming takes away white space only, and what it takes away decides nothing
about the words of a text.
-/

namespace Darcbench.Words

/-- A text of nothing but white space. -/
def IsBlank (text : List Char) : Prop :=
  ∀ c ∈ text, isWhiteSpace c = true

instance (text : List Char) : Decidable (IsBlank text) :=
  List.decidableBAll (fun c => isWhiteSpace c = true) text

theorem isBlank_nil : IsBlank [] := by
  intro c hc
  exact absurd hc (by simp)

theorem IsBlank.append {first second : List Char} (hfirst : IsBlank first)
    (hsecond : IsBlank second) : IsBlank (first ++ second) := by
  intro c hc
  rw [List.mem_append] at hc
  exact hc.elim (hfirst c) (hsecond c)

theorem dropWhile_of_isBlank {text : List Char} (h : IsBlank text)
    (rest : List Char) :
    (text ++ rest).dropWhile isWhiteSpace = rest.dropWhile isWhiteSpace := by
  rw [List.dropWhile_append_of_pos h]

theorem isBlank_iff_dropWhile {text : List Char} :
    IsBlank text ↔ text.dropWhile isWhiteSpace = [] := by
  rw [List.dropWhile_eq_nil_iff]
  rfl

/-- Trimming does not see white space at the ends. -/
theorem trim_padded {first second : List Char} (hfirst : IsBlank first)
    (hsecond : IsBlank second) (text : List Char) :
    trim (first ++ text ++ second) = trim text := by
  have hreverse : IsBlank second.reverse := by
    intro c hc
    exact hsecond c (List.mem_reverse.mp hc)
  rw [trim, trim, List.append_assoc, dropWhile_of_isBlank hfirst]
  by_cases hblank : IsBlank text
  · rw [dropWhile_of_isBlank hblank, isBlank_iff_dropWhile.mp hsecond,
      isBlank_iff_dropWhile.mp hblank]
  · have hne : (text.dropWhile isWhiteSpace) ≠ [] :=
      fun hnil => hblank (isBlank_iff_dropWhile.mpr hnil)
    have hdrop : (text ++ second).dropWhile isWhiteSpace =
        text.dropWhile isWhiteSpace ++ second := by
      rw [List.dropWhile_append, if_neg (by simpa using hne)]
    rw [hdrop, List.reverse_append, dropWhile_of_isBlank hreverse]

/-- Trimming leaves the text between two pieces of white space. -/
theorem exists_padding (text : List Char) :
    ∃ first second, IsBlank first ∧ IsBlank second ∧
      text = first ++ trim text ++ second := by
  have hback := List.takeWhile_append_dropWhile (p := isWhiteSpace)
    (l := (text.dropWhile isWhiteSpace).reverse)
  refine ⟨text.takeWhile isWhiteSpace,
    ((text.dropWhile isWhiteSpace).reverse.takeWhile isWhiteSpace).reverse,
    ?_, ?_, ?_⟩
  · intro c hc
    exact List.mem_takeWhile_imp hc
  · intro c hc
    exact List.mem_takeWhile_imp (List.mem_reverse.mp hc)
  · have hfront := congrArg List.reverse hback
    rw [List.reverse_append, List.reverse_reverse] at hfront
    rw [List.append_assoc, trim, hfront, List.takeWhile_append_dropWhile]

theorem trim_trim (text : List Char) : trim (trim text) = trim text := by
  obtain ⟨first, second, hfirst, hsecond, heq⟩ := exists_padding text
  conv_rhs => rw [heq]
  exact (trim_padded hfirst hsecond _).symm

/-! ## The words between white space -/

theorem splitWhitespace_cons {c : Char} (hc : isWhiteSpace c = true)
    (rest : List Char) :
    splitWhitespace (c :: rest) = splitWhitespace rest := by
  rw [splitWhitespace, List.splitOnP_cons_eq_if_modifyHead, if_pos hc,
    List.filter_cons_of_neg (by simp)]
  rfl

theorem splitWhitespace_concat (text : List Char) {c : Char}
    (hc : isWhiteSpace c = true) :
    splitWhitespace (text ++ [c]) = splitWhitespace text := by
  rw [splitWhitespace, List.splitOnP_append_cons text [] hc,
    List.filter_append, List.splitOnP_nil,
    List.filter_cons_of_neg (by simp), List.filter_nil, List.append_nil]
  rfl

theorem splitWhitespace_of_blank_append {first : List Char}
    (h : IsBlank first) (text : List Char) :
    splitWhitespace (first ++ text) = splitWhitespace text := by
  induction first with
  | nil => rfl
  | cons c rest ih =>
      rw [List.cons_append, splitWhitespace_cons (h c List.mem_cons_self)]
      exact ih fun d hd => h d (List.mem_cons_of_mem _ hd)

theorem splitWhitespace_append_of_blank {second : List Char}
    (h : IsBlank second) (text : List Char) :
    splitWhitespace (text ++ second) = splitWhitespace text := by
  induction second generalizing text with
  | nil => rw [List.append_nil]
  | cons c rest ih =>
      rw [← List.singleton_append, ← List.append_assoc,
        ih (fun d hd => h d (List.mem_cons_of_mem _ hd)),
        splitWhitespace_concat text (h c List.mem_cons_self)]

/-- The words of a text are those of the trimmed text. -/
theorem splitWhitespace_trim (text : List Char) :
    splitWhitespace (trim text) = splitWhitespace text := by
  obtain ⟨first, second, hfirst, hsecond, heq⟩ := exists_padding text
  conv_rhs => rw [heq]
  rw [splitWhitespace_append_of_blank hsecond,
    splitWhitespace_of_blank_append hfirst]

/-! ## Blank lines -/

/-- What the break of a line takes from its end. -/
theorem exists_stripped (line : List Char) :
    ∃ tail, IsBlank tail ∧
      line = (if line.getLast? = some '\r' then line.dropLast else line) ++
        tail := by
  by_cases hreturn : line.getLast? = some '\r'
  · refine ⟨['\r'], by decide, ?_⟩
    rw [if_pos hreturn]
    exact (List.dropLast_append_getLast? '\r' hreturn).symm
  · refine ⟨[], isBlank_nil, ?_⟩
    rw [if_neg hreturn, List.append_nil]

/-- A text whose lines are all blank is blank. -/
theorem isBlank_of_linesFrom {line text : List Char}
    (h : ∀ other ∈ linesFrom line text, IsBlank other) :
    IsBlank (line ++ text) := by
  induction text generalizing line with
  | nil =>
      rw [List.append_nil]
      cases line with
      | nil => exact isBlank_nil
      | cons c rest => exact h _ (by simp [linesFrom])
  | cons c rest ih =>
      by_cases hfeed : c = '\n'
      · subst hfeed
        rw [linesFrom, if_pos rfl] at h
        obtain ⟨tail, htail, heq⟩ := exists_stripped line
        have hline : IsBlank line := by
          rw [heq]
          exact (h _ List.mem_cons_self).append htail
        have hrest := ih fun other hother =>
          h other (List.mem_cons_of_mem _ hother)
        have hfeed : IsBlank ['\n'] := by decide
        exact hline.append (hfeed.append hrest)
      · rw [linesFrom, if_neg hfeed] at h
        have hrest := ih h
        rwa [List.append_assoc, List.singleton_append] at hrest

/-- A text with one line that is not blank is that line between two pieces of
white space. -/
theorem exists_padding_of_linesFrom {line text result : List Char}
    {before after : List (List Char)}
    (hlines : linesFrom line text = before ++ result :: after)
    (hblank : ∀ other ∈ before ++ after, IsBlank other) :
    ∃ first second, IsBlank first ∧ IsBlank second ∧
      line ++ text = first ++ result ++ second := by
  induction text generalizing line before with
  | nil =>
      rw [linesFrom] at hlines
      split at hlines
      · exact absurd hlines (by simp)
      · obtain ⟨-, hcons⟩ | ⟨-, hnil⟩ :=
          List.singleton_eq_append_iff.mp hlines
        · obtain ⟨rfl, -⟩ := List.cons.inj hcons
          exact ⟨[], [], isBlank_nil, isBlank_nil, by simp⟩
        · exact absurd hnil (by simp)
  | cons c rest ih =>
      by_cases hfeed : c = '\n'
      · subst hfeed
        rw [linesFrom, if_pos rfl] at hlines
        obtain ⟨tail, htail, heq⟩ := exists_stripped line
        have hbreak : IsBlank ['\n'] := by decide
        cases before with
        | nil =>
            obtain ⟨rfl, rfl⟩ := List.cons.inj hlines
            have hrest := isBlank_of_linesFrom hblank
            refine ⟨[], tail ++ (['\n'] ++ rest), isBlank_nil,
              htail.append (hbreak.append hrest), ?_⟩
            conv_lhs => rw [heq]
            rw [List.nil_append, List.append_assoc, List.singleton_append]
        | cons other before =>
            obtain ⟨rfl, hbehind⟩ := List.cons.inj hlines
            have hline : IsBlank line := by
              rw [heq]
              exact (hblank _ List.mem_cons_self).append htail
            obtain ⟨first, second, hfirst, hsecond, hrest⟩ :=
              ih hbehind fun other hother =>
                hblank other (List.mem_cons_of_mem _ hother)
            rw [List.nil_append] at hrest
            refine ⟨line ++ (['\n'] ++ first), second,
              hline.append (hbreak.append hfirst), hsecond, ?_⟩
            rw [hrest]
            simp only [List.append_assoc, List.cons_append, List.nil_append]
      · rw [linesFrom, if_neg hfeed] at hlines
        obtain ⟨first, second, hfirst, hsecond, hrest⟩ := ih hlines hblank
        rw [List.append_assoc, List.singleton_append] at hrest
        exact ⟨first, second, hfirst, hsecond, hrest⟩

/-- Trimming a text with one line that is not blank leaves that line,
trimmed. -/
theorem trim_of_lines {text result : List Char}
    {before after : List (List Char)}
    (hlines : lines text = before ++ result :: after)
    (hblank : ∀ other ∈ before ++ after, IsBlank other) :
    trim text = trim result := by
  obtain ⟨first, second, hfirst, hsecond, heq⟩ :=
    exists_padding_of_linesFrom hlines hblank
  rw [List.nil_append] at heq
  rw [heq, trim_padded hfirst hsecond]

end Darcbench.Words
