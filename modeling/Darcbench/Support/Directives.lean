import Mathlib.Data.List.Forall2

/-!
# Texts made of directives

The configuration of a web server is read line by line.  A line is broken into
words at white space, the characters that open or close a block or a tag and
the one that ends a directive are words of their own, and a comment runs to the
end of its line.

A text in which one word ends with a hole has the same directives whatever is
filled in, as long as it consists of plain characters.
-/

namespace Darcbench

namespace Directives

abbrev Word :=
  List Char

/-- Whether a character stands between words. -/
def isBlank (c : Char) : Bool :=
  c = ' ' || c = '\t' || c = '\r'

/-- Whether a character is a word of its own. -/
def isSpecial (c : Char) : Bool :=
  c = '{' || c = '}' || c = ';' || c = '<' || c = '>'

/-- Whether a character ends a word. -/
def isSeparator (c : Char) : Bool :=
  c = '\n' || isBlank c || isSpecial c

/-- The lines that were read, the words of the one being read, and the word
that is not complete. -/
structure Scan where
  lines : List (List Word)
  line : List Word
  word : Option Word
  comment : Bool
  deriving DecidableEq

namespace Scan

def start : Scan where
  lines := []
  line := []
  word := none
  comment := false

/-- The words of the line, with the one that is not complete. -/
def flush (s : Scan) : List Word :=
  s.line ++ s.word.toList

def step (s : Scan) (c : Char) : Scan :=
  if c = '\n' then ⟨s.lines ++ [s.flush], [], none, false⟩
  else if s.comment then s
  else if isBlank c then ⟨s.lines, s.flush, none, false⟩
  else if isSpecial c then ⟨s.lines, s.flush ++ [[c]], none, false⟩
  else if c = '#' ∧ s.word = none then ⟨s.lines, s.line, none, true⟩
  else ⟨s.lines, s.line, some (s.word.getD [] ++ [c]), false⟩

def run (s : Scan) (text : List Char) : Scan :=
  text.foldl step s

theorem run_append (s : Scan) (first second : List Char) :
    s.run (first ++ second) = (s.run first).run second :=
  List.foldl_append

end Scan

/-- The directives of a text, line by line. -/
def directives (text : List Char) : List (List Word) :=
  (Scan.start.run text).lines ++ [(Scan.start.run text).flush]

/-! ## What was read before -/

namespace Scan

/-- A state behind other lines, with words in front of its first line. -/
def behind (lines : List (List Word)) (line : List Word) (s : Scan) : Scan :=
  match s.lines with
  | [] => { s with lines := lines, line := line ++ s.line }
  | first :: rest => { s with lines := lines ++ (line ++ first) :: rest }

theorem flush_behind (lines : List (List Word)) (line : List Word)
    (s : Scan) :
    (s.behind lines line).flush =
      match s.lines with
      | [] => line ++ s.flush
      | _ :: _ => s.flush := by
  unfold behind flush
  cases s.lines with
  | nil => exact List.append_assoc _ _ _
  | cons _ _ => rfl

/-- Reading goes on in the same way whatever was read before. -/
theorem step_behind (lines : List (List Word)) (line : List Word) (s : Scan)
    (c : Char) :
    (s.behind lines line).step c = (s.step c).behind lines line := by
  have hflush := flush_behind lines line s
  obtain ⟨before, words, word, comment⟩ := s
  cases before with
  | nil =>
      simp only [behind] at hflush ⊢
      simp only [step, hflush]
      split_ifs <;> simp only [List.nil_append, List.append_assoc]
  | cons first rest =>
      simp only [behind] at hflush ⊢
      simp only [step, hflush]
      split_ifs <;> simp only [List.cons_append, List.append_assoc]

theorem run_behind (lines : List (List Word)) (line : List Word) (s : Scan)
    (text : List Char) :
    (s.behind lines line).run text = (s.run text).behind lines line := by
  induction text generalizing s with
  | nil => rfl
  | cons c text ih =>
      rw [run, List.foldl_cons, step_behind]
      exact ih (s.step c)

end Scan

/-! ## Plain words -/

/-- Whether a text is part of a word wherever it stands in a line. -/
def IsPlain (text : List Char) : Prop :=
  ∀ c ∈ text, isSeparator c = false ∧ c ≠ '#'

instance (text : List Char) : Decidable (IsPlain text) :=
  List.decidableBAll (fun c => isSeparator c = false ∧ c ≠ '#') text

theorem IsPlain.append {first second : List Char} (hfirst : IsPlain first)
    (hsecond : IsPlain second) : IsPlain (first ++ second) := by
  intro c hc
  rcases List.mem_append.mp hc with hc | hc
  · exact hfirst c hc
  · exact hsecond c hc

theorem step_of_plain {c : Char} (h : isSeparator c = false ∧ c ≠ '#')
    (lines : List (List Word)) (line : List Word) (word : Option Word) :
    Scan.step ⟨lines, line, word, false⟩ c =
      ⟨lines, line, some (word.getD [] ++ [c]), false⟩ := by
  obtain ⟨hseparator, hcomment⟩ := h
  simp only [isSeparator, Bool.or_eq_false_iff, decide_eq_false_iff_not]
    at hseparator
  obtain ⟨⟨hbreak, hspace⟩, hspecial⟩ := hseparator
  simp only [Scan.step, if_neg hbreak, hspace, hspecial, hcomment,
    Bool.false_eq_true, if_false, false_and]

/-- A plain text prolongs the word in which it stands. -/
theorem run_of_plain {text : List Char} (h : IsPlain text) (hne : text ≠ [])
    (lines : List (List Word)) (line : List Word) (word : Option Word) :
    Scan.run ⟨lines, line, word, false⟩ text =
      ⟨lines, line, some (word.getD [] ++ text), false⟩ := by
  induction text generalizing word with
  | nil => exact absurd rfl hne
  | cons c text ih =>
      have hc := step_of_plain (h c List.mem_cons_self) lines line word
      rw [Scan.run, List.foldl_cons, hc]
      cases text with
      | nil => rfl
      | cons d text =>
          have hrest := ih (fun e he => h e (List.mem_cons_of_mem _ he))
            (List.cons_ne_nil d text) (some (word.getD [] ++ [c]))
          refine hrest.trans ?_
          rw [Option.getD_some, List.append_assoc, List.singleton_append]

/-- A word ends in front of a separator. -/
theorem run_of_separator {c : Char} (h : isSeparator c = true)
    (rest : List Char) (lines : List (List Word)) (line : List Word)
    (word : Word) :
    Scan.run ⟨lines, line, some word, false⟩ (c :: rest) =
      (Scan.start.run (c :: rest)).behind lines (line ++ [word]) := by
  have hstep : Scan.step ⟨lines, line, some word, false⟩ c =
      (Scan.start.step c).behind lines (line ++ [word]) := by
    simp only [isSeparator, Bool.or_eq_true, decide_eq_true_eq] at h
    simp only [Scan.step, Scan.start, Scan.flush, Option.toList_some,
      Option.toList_none, List.append_nil, Bool.false_eq_true, if_false]
    by_cases hbreak : c = '\n'
    · rw [if_pos hbreak, if_pos hbreak]
      simp only [Scan.behind, List.nil_append, List.append_nil]
    rw [if_neg hbreak, if_neg hbreak]
    by_cases hspace : isBlank c = true
    · rw [if_pos hspace, if_pos hspace]
      simp only [Scan.behind, List.append_nil]
    rw [if_neg hspace, if_neg hspace]
    have hspecial := h.resolve_left (not_or.mpr ⟨hbreak, hspace⟩)
    rw [if_pos hspecial, if_pos hspecial]
    simp only [Scan.behind, List.nil_append]
  rw [Scan.run, List.foldl_cons, hstep]
  exact Scan.run_behind _ _ _ rest

/-! ## Holes -/

/-- The lines that result when reading goes on. -/
def Scan.directives (s : Scan) (text : List Char) : List (List Word) :=
  (s.run text).lines ++ [(s.run text).flush]

/-- Whether a word is not a special character. -/
def isName : Word → Bool
  | [c] => !isSpecial c
  | _ => true

/-- Lines that are the same but for the end of one argument.  An argument
stands behind the name of its directive. -/
def SameLine (first second : List Char) (line other : List Word) : Prop :=
  line = other ∨ ∃ before head after,
    before.any isName = true ∧
      line = before ++ (head ++ first) :: after ∧
      other = before ++ (head ++ second) :: after

/-- Texts that continue a state to the same lines but for the end of one
argument in each. -/
def Alike (first second : List Char) (s : Scan) (text other : List Char) :
    Prop :=
  List.Forall₂ (SameLine first second) (s.directives text)
    (s.directives other)

theorem SameLine.refl (first second : List Char) (line : List Word) :
    SameLine first second line line :=
  .inl rfl

variable {first second : List Char} {s : Scan} {text other : List Char}

theorem Alike.refl (first second : List Char) (s : Scan)
    (text : List Char) : Alike first second s text text :=
  List.forall₂_same.mpr fun line _ => .refl first second line

/-- A piece that both texts have. -/
theorem Alike.piece {piece : List Char}
    (h : Alike first second (s.run piece) text other) :
    Alike first second s (piece ++ text) (piece ++ other) := by
  unfold Alike Scan.directives at h ⊢
  rwa [Scan.run_append, Scan.run_append]

/-- Two pieces taken as one. -/
theorem Alike.join {a b c d : List Char}
    (h : Alike first second s ((a ++ b) ++ text) ((c ++ d) ++ other)) :
    Alike first second s (a ++ (b ++ text)) (c ++ (d ++ other)) := by
  rwa [List.append_assoc, List.append_assoc] at h

/-- The lines behind a word that is complete. -/
theorem directives_behind (lines : List (List Word)) (line : List Word)
    {first : List Word} {rest : List (List Word)}
    (h : s.directives text = first :: rest) :
    (s.behind lines line).directives text =
      lines ++ (line ++ first) :: rest := by
  unfold Scan.directives at h ⊢
  rw [Scan.run_behind, Scan.flush_behind]
  unfold Scan.behind
  cases hlines : (s.run text).lines with
  | nil =>
      rw [hlines, List.nil_append] at h
      cases h
      rfl
  | cons head tail =>
      rw [hlines, List.cons_append] at h
      cases h
      rw [List.append_assoc, List.cons_append]

theorem lines_step (s : Scan) (c : Char) :
    ∃ more, (s.step c).lines = s.lines ++ more := by
  unfold Scan.step
  split_ifs
  · exact ⟨_, rfl⟩
  all_goals exact ⟨[], (List.append_nil _).symm⟩

theorem lines_run (s : Scan) (text : List Char) :
    ∃ more, (s.run text).lines = s.lines ++ more := by
  induction text generalizing s with
  | nil => exact ⟨[], (List.append_nil _).symm⟩
  | cons c text ih =>
      obtain ⟨one, hone⟩ := lines_step s c
      obtain ⟨more, hmore⟩ := ih (s.step c)
      refine ⟨one ++ more, ?_⟩
      rw [← List.append_assoc, ← hone]
      exact hmore

/-- The lines that were read stay in front. -/
theorem directives_of_lines {head : List Word} {tail : List (List Word)}
    (h : s.lines = head :: tail) (text : List Char) :
    ∃ rest, s.directives text = head :: rest := by
  obtain ⟨more, hmore⟩ := lines_run s text
  rw [h] at hmore
  unfold Scan.directives
  rw [hmore]
  exact ⟨_, rfl⟩

/-- The state behind a hole, which a separator closes. -/
theorem run_hole {lines : List (List Word)} {line : List Word}
    {word : Option Word} {head piece : List Char} (hhead : IsPlain head)
    (hfirst : IsPlain first) (hne : first ≠ [])
    (hpiece : piece.head?.any isSeparator = true) :
    Scan.run ⟨lines, line, word, false⟩ (head ++ (first ++ (piece ++ text))) =
      ((Scan.start.run piece).behind lines
        (line ++ [word.getD [] ++ head ++ first])).run text := by
  have hplain := hhead.append hfirst
  have hall : head ++ first ≠ [] := by
    intro h
    exact hne (List.append_eq_nil_iff.mp h).2
  cases piece with
  | nil => cases hpiece
  | cons c piece =>
      rw [← List.append_assoc, Scan.run_append, run_of_plain hplain hall,
        Scan.run_append, run_of_separator hpiece, ← List.append_assoc]

/-- A hole at the end of an argument, with the piece that follows it up to
another line. -/
theorem Alike.hole {head piece : List Char} (hhead : IsPlain head)
    (hfirst : IsPlain first) (hfirstne : first ≠ [])
    (hsecond : IsPlain second) (hsecondne : second ≠ [])
    (hcomment : s.comment = false)
    (hline : s.line.any isName = true)
    (hpiece : piece.head?.any isSeparator = true)
    (hbreak : (Scan.start.run piece).lines ≠ [])
    (h : Alike first second (Scan.start.run piece) text other) :
    Alike first second s (head ++ (first ++ (piece ++ text)))
      (head ++ (second ++ (piece ++ other))) := by
  obtain ⟨lines, line, word, comment⟩ := s
  cases hcomment
  obtain ⟨one, rest, hlines⟩ := List.exists_cons_of_ne_nil hbreak
  obtain ⟨texts, htexts⟩ := directives_of_lines hlines text
  obtain ⟨others, hothers⟩ := directives_of_lines hlines other
  unfold Alike at h ⊢
  have hrun : ∀ {hole text rest : List _},
      IsPlain hole → hole ≠ [] →
      (Scan.start.run piece).directives text = one :: rest →
      Scan.directives ⟨lines, line, word, false⟩
          (head ++ (hole ++ (piece ++ text))) =
        lines ++ (line ++ (word.getD [] ++ head ++ hole) :: one) :: rest := by
    intro hole text rest hplain hne hdirectives
    have hbehind := directives_behind lines
      (line ++ [word.getD [] ++ head ++ hole]) hdirectives
    rw [List.append_assoc line, List.singleton_append] at hbehind
    unfold Scan.directives at hbehind ⊢
    rw [run_hole hhead hplain hne hpiece, hbehind]
  rw [hrun hfirst hfirstne htexts, hrun hsecond hsecondne hothers]
  rw [htexts, hothers] at h
  obtain ⟨-, hrest⟩ := List.forall₂_cons.mp h
  refine List.rel_append (List.forall₂_same.mpr fun l _ => .refl _ _ l)
    (.cons (.inr ⟨line, word.getD [] ++ head, one, hline, rfl, rfl⟩) hrest)

/-- A hole at the start of an argument. -/
theorem Alike.bareHole {piece : List Char} (hfirst : IsPlain first)
    (hfirstne : first ≠ []) (hsecond : IsPlain second)
    (hsecondne : second ≠ []) (hcomment : s.comment = false)
    (hline : s.line.any isName = true)
    (hpiece : piece.head?.any isSeparator = true)
    (hbreak : (Scan.start.run piece).lines ≠ [])
    (h : Alike first second (Scan.start.run piece) text other) :
    Alike first second s (first ++ (piece ++ text))
      (second ++ (piece ++ other)) := by
  have hhead : IsPlain [] := fun c hc => absurd hc List.not_mem_nil
  exact Alike.hole hhead hfirst hfirstne hsecond hsecondne hcomment hline
    hpiece hbreak h

/-! ## Blocks and tags -/

/-- A brace opens a block or closes the innermost one. -/
def brace (stack : List Word) (word : Word) : Option (List Word) :=
  if word = ['{'] then some (word :: stack)
  else if word = ['}'] then
    if stack.head? = some ['{'] then some stack.tail else none
  else some stack

/-- A tag opens an element or closes the innermost one. -/
def tag (stack : List Word) : Option Word → Option (List Word)
  | none => none
  | some name =>
      if name.head? ≠ some '/' then some (name :: stack)
      else if stack.head? = some name.tail then some stack.tail
      else none

/-- The blocks and elements that are open behind a line. -/
def nest (stack : List Word) (line : List Word) : Option (List Word) :=
  if line.head? = some ['<'] then tag stack (line)[1]?
  else line.foldlM brace stack

/-- Whether all that is opened is closed again, the innermost first. -/
def IsBalanced (lines : List (List Word)) : Prop :=
  lines.foldlM nest [] = some []

instance (lines : List (List Word)) : Decidable (IsBalanced lines) :=
  inferInstanceAs (Decidable (_ = _))

theorem brace_of_plain (hplain : IsPlain first) (hne : first ≠ [])
    (stack : List Word) (head : List Char) :
    brace stack (head ++ first) = some stack := by
  have hword : ∀ c, isSpecial c = true → head ++ first ≠ [c] := by
    intro c hspecial heq
    have hlast : c ∈ first := by
      obtain ⟨d, rest, rfl⟩ := List.exists_cons_of_ne_nil hne
      cases head with
      | nil =>
          rw [List.nil_append] at heq
          rw [heq]
          exact List.mem_singleton_self c
      | cons e head =>
          have hnil := (List.cons.inj heq).2
          exact absurd (List.append_eq_nil_iff.mp hnil).2 hne
    have hseparator := (hplain c hlast).1
    rw [isSeparator, hspecial, Bool.or_true] at hseparator
    cases hseparator
  rw [brace, if_neg (hword '{' (by decide)), if_neg (hword '}' (by decide))]

/-- What is filled in opens and closes nothing. -/
theorem SameLine.nest_eq (hfirst : IsPlain first) (hfirstne : first ≠ [])
    (hsecond : IsPlain second) (hsecondne : second ≠ [])
    {line other : List Word} (h : SameLine first second line other)
    (stack : List Word) : nest stack line = nest stack other := by
  rcases h with rfl | ⟨before, head, after, hname, rfl, rfl⟩
  · rfl
  cases before with
  | nil => cases hname
  | cons word before =>
      unfold nest
      rw [List.cons_append, List.cons_append, List.head?_cons,
        List.head?_cons]
      by_cases hword : word = ['<']
      · subst hword
        rw [if_pos rfl, if_pos rfl]
        cases before with
        | nil => exact absurd hname (by decide)
        | cons _ _ => rfl
      · have hne : some word ≠ some ['<'] :=
          fun heq => hword (Option.some.inj heq)
        rw [if_neg hne, if_neg hne, ← List.cons_append, ← List.cons_append,
          List.foldlM_append, List.foldlM_append]
        refine congrArg _ (funext fun stack => ?_)
        rw [List.foldlM_cons, List.foldlM_cons,
          brace_of_plain hfirst hfirstne, brace_of_plain hsecond hsecondne]

/-- A text stays balanced when something else is filled in. -/
theorem isBalanced_of_sameLine (hfirst : IsPlain first)
    (hfirstne : first ≠ []) (hsecond : IsPlain second)
    (hsecondne : second ≠ []) {lines others : List (List Word)}
    (h : List.Forall₂ (SameLine first second) lines others) :
    IsBalanced lines ↔ IsBalanced others := by
  have hfold : ∀ stack, lines.foldlM nest stack = others.foldlM nest stack := by
    induction h with
    | nil => exact fun _ => rfl
    | cons hline _ ih =>
        intro stack
        rw [List.foldlM_cons, List.foldlM_cons,
          hline.nest_eq hfirst hfirstne hsecond hsecondne]
        exact congrArg _ (funext ih)
  rw [IsBalanced, IsBalanced, hfold]

end Directives

end Darcbench
