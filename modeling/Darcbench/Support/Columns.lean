import Darcbench.Support.Words

/-!
# Columns of a line

Lines whose columns are separated by single spaces, with a separator of its own
between two groups of them.
-/

namespace Darcbench.Words

/-- What stands before and behind the first occurrence of a text. -/
def splitOnceOn (sep : List Char) :
    List Char → Option (List Char × List Char)
  | [] => if sep.isEmpty then some ([], []) else none
  | c :: rest =>
      if sep.isPrefixOf (c :: rest) then
        some ([], (c :: rest).drop sep.length)
      else
        (splitOnceOn sep rest).map fun parts => (c :: parts.1, parts.2)

/-- A line without the carriage return that belongs to its break. -/
def stripReturn (line : List Char) : List Char :=
  if line.getLast? = some '\r' then line.dropLast else line

theorem linesFrom_append {text : List Char} (h : '\n' ∉ text)
    (line rest : List Char) :
    linesFrom line (text ++ '\n' :: rest) =
      stripReturn (line ++ text) :: linesFrom [] rest := by
  induction text generalizing line with
  | nil => rw [List.nil_append, linesFrom, if_pos rfl, List.append_nil]; rfl
  | cons c text ih =>
      obtain ⟨hc, htext⟩ := List.ne_and_not_mem_of_not_mem_cons h
      rw [List.cons_append, linesFrom, if_neg (Ne.symm hc), ih htext,
        List.append_assoc, List.singleton_append]

/-- The lines of a text that ends with a line feed. -/
theorem lines_flatMap {texts : List (List Char)}
    (h : ∀ text ∈ texts, '\n' ∉ text) :
    lines (texts.flatMap fun text => text ++ ['\n']) =
      texts.map stripReturn := by
  induction texts with
  | nil => rfl
  | cons text texts ih =>
      have hrest := ih fun t ht => h t (List.mem_cons_of_mem _ ht)
      rw [lines] at hrest
      rw [lines, List.flatMap_cons, List.append_assoc, List.singleton_append,
        linesFrom_append (h text List.mem_cons_self), List.nil_append, hrest,
        List.map_cons]

/-- Stripping a line leaves what stands before a visible character. -/
theorem stripReturn_append {head rest : List Char} (h : rest ≠ []) :
    stripReturn (head ++ rest) = head ++ stripReturn rest := by
  rw [stripReturn, stripReturn, List.getLast?_append_of_ne_nil _ h]
  split
  · rw [List.dropLast_append_of_ne_nil h]
  · rfl

/-! ## Words -/

/-- A word has at least one character, and no white space. -/
def IsWord (word : List Char) : Prop :=
  word ≠ [] ∧ ∀ c ∈ word, isWhiteSpace c = false

instance (word : List Char) : Decidable (IsWord word) :=
  have := List.decidableBAll (fun c => isWhiteSpace c = false) word
  inferInstanceAs (Decidable (word ≠ [] ∧ ∀ c ∈ word, isWhiteSpace c = false))

theorem splitWhitespace_append {word : List Char} (h : IsWord word) {c : Char}
    (hc : isWhiteSpace c = true) (rest : List Char) :
    splitWhitespace (word ++ c :: rest) = word :: splitWhitespace rest := by
  obtain ⟨hne, hword⟩ := h
  rw [splitWhitespace,
    List.splitOnP_append_cons_of_forall_mem hword c hc,
    List.filter_cons_of_pos (by simpa using hne)]
  rfl

/-- Trimming takes the white space from behind a word. -/
theorem trim_append {word : List Char} (h : IsWord word) {c : Char}
    (hc : isWhiteSpace c = true) : trim (word ++ [c]) = word := by
  obtain ⟨hne, hword⟩ := h
  have hdrop : ∀ (text rest : List Char), text ≠ [] →
      (∀ d ∈ text, isWhiteSpace d = false) →
        (text ++ rest).dropWhile isWhiteSpace = text ++ rest := by
    intro text rest htext hall
    obtain ⟨d, others, rfl⟩ := List.exists_cons_of_ne_nil htext
    refine List.dropWhile_cons_of_neg ?_
    rw [hall d List.mem_cons_self]
    exact Bool.false_ne_true
  have hback := hdrop word.reverse [] (List.reverse_ne_nil_iff.mpr hne)
    fun d hd => hword d (List.mem_reverse.mp hd)
  rw [List.append_nil] at hback
  rw [trim, hdrop word [c] hne hword, List.reverse_append,
    List.reverse_singleton, List.singleton_append,
    List.dropWhile_cons_of_pos hc, hback, List.reverse_reverse]

/-! ## Groups of columns -/

/-- A column is not empty, has no space and no line feed in it, and is no
dash. -/
structure IsColumn (column : List Char) : Prop where
  ne_nil : column ≠ []
  no_space : ' ' ∉ column
  no_feed : '\n' ∉ column
  no_dash : column ≠ ['-']

instance (column : List Char) : Decidable (IsColumn column) :=
  decidable_of_iff (column ≠ [] ∧ ' ' ∉ column ∧ '\n' ∉ column ∧
      column ≠ ['-'])
    ⟨fun ⟨hne, hspace, hfeed, hdash⟩ => ⟨hne, hspace, hfeed, hdash⟩,
      fun ⟨hne, hspace, hfeed, hdash⟩ => ⟨hne, hspace, hfeed, hdash⟩⟩

/-- The separator of the two groups of columns. -/
def dash : List Char := [' ', '-', ' ']

theorem splitOnceOn_dash {rest : List Char} :
    splitOnceOn dash (dash ++ rest) = some ([], rest) := rfl

theorem splitOnceOn_cons {c : Char} {text : List Char}
    (h : dash.isPrefixOf (c :: text) = false) :
    splitOnceOn dash (c :: text) =
      (splitOnceOn dash text).map fun parts => (c :: parts.1, parts.2) := by
  rw [splitOnceOn, if_neg]
  rw [h]
  exact Bool.false_ne_true

/-- No separator begins within a column. -/
theorem splitOnceOn_column {column : List Char} (h : ' ' ∉ column)
    {text : List Char} {parts : List Char × List Char}
    (htext : splitOnceOn dash text = some parts) :
    splitOnceOn dash (column ++ text) =
      some (column ++ parts.1, parts.2) := by
  induction column with
  | nil => exact htext
  | cons c column ih =>
      obtain ⟨hc, hcolumn⟩ := List.ne_and_not_mem_of_not_mem_cons h
      have hprefix : dash.isPrefixOf (c :: (column ++ text)) = false := by
        rw [dash, List.isPrefixOf_cons_cons, beq_false_of_ne hc, Bool.false_and]
      rw [List.cons_append, splitOnceOn_cons hprefix, ih hcolumn,
        Option.map_some]
      rfl

/-- The columns, with a space between them. -/
def columns : List (List Char) → List Char
  | [] => []
  | [column] => column
  | column :: next :: rest => column ++ ' ' :: columns (next :: rest)

/-- A space before a column is not the separator. -/
theorem isPrefixOf_dash_column {column : List Char} (h : IsColumn column)
    (text : List Char) :
    dash.isPrefixOf (' ' :: (column ++ ' ' :: text)) = false := by
  obtain ⟨hne, hspace, -, hdash⟩ := h
  cases column with
  | nil => exact absurd rfl hne
  | cons c rest =>
      by_cases hc : c = '-'
      · subst hc
        cases rest with
        | nil => exact absurd rfl hdash
        | cons d rest =>
            have hd : ' ' ≠ d := by
              rintro rfl
              exact hspace (by simp)
            simp [dash, List.isPrefixOf, hd]
      · simp [dash, List.isPrefixOf, Ne.symm hc]

theorem no_feed_columns {columns : List (List Char)}
    (h : ∀ column ∈ columns, IsColumn column) :
    '\n' ∉ Words.columns columns := by
  induction columns with
  | nil => exact List.not_mem_nil
  | cons column rest ih =>
      obtain ⟨hcolumn, hrest⟩ := List.forall_mem_cons.mp h
      cases rest with
      | nil => exact hcolumn.no_feed
      | cons next others =>
          rw [Words.columns, List.mem_append, List.mem_cons]
          rintro (hmem | hmem | hmem)
          · exact hcolumn.no_feed hmem
          · exact absurd hmem (by decide)
          · exact ih hrest hmem

/-- The columns of the first group are what stands before the separator. -/
theorem splitOnceOn_columns {first : List (List Char)} (hne : first ≠ [])
    (h : ∀ column ∈ first, IsColumn column) (rest : List Char) :
    splitOnceOn dash (columns first ++ dash ++ rest) =
      some (columns first, rest) := by
  induction first with
  | nil => exact absurd rfl hne
  | cons column first ih =>
      obtain ⟨hcolumn, hfirst⟩ := List.forall_mem_cons.mp h
      cases first with
      | nil =>
          rw [columns, List.append_assoc,
            splitOnceOn_column hcolumn.no_space splitOnceOn_dash,
            List.append_nil]
      | cons next others =>
          have hrest := ih (List.cons_ne_nil _ _) hfirst
          have hnext := (List.forall_mem_cons.mp hfirst).1
          -- Behind the next column there is a space in any case.
          obtain ⟨tail, htail⟩ : ∃ tail, columns (next :: others) ++ dash ++
              rest = next ++ ' ' :: tail := by
            cases others with
            | nil => exact ⟨'-' :: ' ' :: rest, by simp [columns, dash]⟩
            | cons other others =>
                exact ⟨_, by
                  rw [columns, List.append_assoc, List.append_assoc,
                    List.cons_append]⟩
          have hprefix := isPrefixOf_dash_column hnext tail
          rw [← htail] at hprefix
          have hspace := splitOnceOn_cons hprefix
          rw [hrest, Option.map_some] at hspace
          have hall := splitOnceOn_column hcolumn.no_space hspace
          rw [columns, List.append_assoc, List.append_assoc, List.cons_append,
            ← List.append_assoc (columns (next :: others))]
          exact hall

end Darcbench.Words
