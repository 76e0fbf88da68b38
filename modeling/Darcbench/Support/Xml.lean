import Mathlib.Data.List.Basic
import Mathlib.Tactic.IntervalCases

/-!
# Reading XML

A document is read character by character, as tags and the text between them.
Entities are replaced, and sections of character data are text.  The tags make
a forest of elements.
-/

namespace Darcbench.Xml

/-- A start tag. -/
structure Tag where
  name : List Char
  attributes : List (List Char × List Char)
  deriving DecidableEq

inductive Item where
  | start (tag : Tag)
  | stop (name : List Char)
  | text (c : Char)
  deriving DecidableEq

/-- The place that has been reached. -/
inductive State where
  | text
  /-- After an ampersand. -/
  | reference (read : List Char)
  | tagOpen
  /-- After an opening bracket and an exclamation mark. -/
  | declaration (read : List Char)
  | comment (dashes : ℕ)
  /-- In a section of character data, after brackets that may end it. -/
  | cdata (brackets : ℕ)
  | instruction (question : Bool)
  | endTag (read : List Char)
  | tagName (read : List Char)
  | beforeAttribute (tag : Tag)
  | emptyTag (tag : Tag)
  | attributeName (tag : Tag) (read : List Char)
  | beforeValue (tag : Tag) (name : List Char)
  | value (tag : Tag) (name : List Char) (quote : Char) (read : List Char)
  | valueReference (tag : Tag) (name : List Char) (quote : Char)
      (read reference : List Char)
  | malformed
  deriving DecidableEq

/-- The five entities. -/
def entity (name : List Char) : Option Char :=
  if name = ['a', 'm', 'p'] then some '&'
  else if name = ['l', 't'] then some '<'
  else if name = ['g', 't'] then some '>'
  else if name = ['q', 'u', 'o', 't'] then some '"'
  else if name = ['a', 'p', 'o', 's'] then some '\''
  else none

def isSpace (c : Char) : Bool :=
  c = ' ' || c = '\n' || c = '\t' || c = '\r'

def Tag.withAttribute (tag : Tag) (name value : List Char) : Tag :=
  { tag with attributes := tag.attributes ++ [(name, value)] }

/-- What starts a section of character data. -/
def cdataStart : List Char := ['[', 'C', 'D', 'A', 'T', 'A', '[']

/-- One character of a document. -/
def step : State → Char → State × List Item
  | .text, c =>
      if c = '<' then (.tagOpen, [])
      else if c = '&' then (.reference [], [])
      else (.text, [.text c])
  | .reference read, c =>
      if c = ';' then
        match entity read with
        | some decoded => (.text, [.text decoded])
        | none => (.malformed, [])
      else (.reference (read ++ [c]), [])
  | .tagOpen, c =>
      if c = '/' then (.endTag [], [])
      else if c = '!' then (.declaration [], [])
      else if c = '?' then (.instruction false, [])
      else (.tagName [c], [])
  | .declaration read, c =>
      if read ++ [c] = cdataStart then (.cdata 0, [])
      else if read ++ [c] = ['-', '-'] then (.comment 0, [])
      else if c = '>' then (.text, [])
      else (.declaration (read ++ [c]), [])
  | .comment dashes, c =>
      if c = '-' then (.comment (min (dashes + 1) 2), [])
      else if c = '>' ∧ dashes = 2 then (.text, [])
      else (.comment 0, [])
  | .cdata brackets, c =>
      if c = ']' then
        if brackets = 2 then (.cdata 2, [.text ']'])
        else (.cdata (brackets + 1), [])
      else if c = '>' ∧ brackets = 2 then (.text, [])
      else (.cdata 0, List.replicate brackets (.text ']') ++ [.text c])
  | .instruction question, c =>
      if c = '>' ∧ question = true then (.text, [])
      else (.instruction (c = '?'), [])
  | .endTag read, c =>
      if c = '>' then (.text, [.stop read])
      else if isSpace c then (.endTag read, [])
      else (.endTag (read ++ [c]), [])
  | .tagName read, c =>
      if c = '>' then (.text, [.start ⟨read, []⟩])
      else if c = '/' then (.emptyTag ⟨read, []⟩, [])
      else if isSpace c then (.beforeAttribute ⟨read, []⟩, [])
      else (.tagName (read ++ [c]), [])
  | .beforeAttribute tag, c =>
      if c = '>' then (.text, [.start tag])
      else if c = '/' then (.emptyTag tag, [])
      else if isSpace c then (.beforeAttribute tag, [])
      else (.attributeName tag [c], [])
  | .emptyTag tag, c =>
      if c = '>' then (.text, [.start tag, .stop tag.name])
      else (.malformed, [])
  | .attributeName tag read, c =>
      if c = '=' then (.beforeValue tag read, [])
      else if isSpace c then (.attributeName tag read, [])
      else (.attributeName tag (read ++ [c]), [])
  | .beforeValue tag name, c =>
      if c = '"' ∨ c = '\'' then (.value tag name c [], [])
      else if isSpace c then (.beforeValue tag name, [])
      else (.malformed, [])
  | .value tag name quote read, c =>
      if c = quote then (.beforeAttribute (tag.withAttribute name read), [])
      else if c = '&' then (.valueReference tag name quote read [], [])
      else (.value tag name quote (read ++ [c]), [])
  | .valueReference tag name quote read reference, c =>
      if c = ';' then
        match entity reference with
        | some decoded => (.value tag name quote (read ++ [decoded]), [])
        | none => (.malformed, [])
      else (.valueReference tag name quote read (reference ++ [c]), [])
  | .malformed, _ => (.malformed, [])

/-- Reads a document from a place on. -/
def scan (s : State) : List Char → State × List Item
  | [] => (s, [])
  | c :: rest =>
      ((scan (step s c).1 rest).1, (step s c).2 ++ (scan (step s c).1 rest).2)

theorem scan_append (s : State) (first second : List Char) :
    scan s (first ++ second) =
      ((scan (scan s first).1 second).1,
        (scan s first).2 ++ (scan (scan s first).1 second).2) := by
  induction first generalizing s with
  | nil => rfl
  | cons c rest ih =>
      rw [List.cons_append, scan, scan, ih, List.append_assoc]

/-- Pieces are read one after the other. -/
theorem scan_append_of_eq {s s' : State} {first : List Char}
    {found : List Item} (h : scan s first = (s', found))
    (second : List Char) :
    scan s (first ++ second) =
      ((scan s' second).1, found ++ (scan s' second).2) := by
  rw [scan_append, h]

theorem scan_append_eq {s s' s'' : State} {first second : List Char}
    {found found' : List Item} (h : scan s first = (s', found))
    (h' : scan s' second = (s'', found')) :
    scan s (first ++ second) = (s'', found ++ found') := by
  rw [scan_append_of_eq h, h']

/-! ## Elements -/

inductive Node where
  | element (tag : Tag) (children : List Node)
  | char (c : Char)

/-- The elements that are open, the innermost first, with what they hold so
far. -/
abbrev Stack : Type := List (Tag × List Node)

/-- Nothing is made of tags that do not match. -/
def build : Stack → Item → Stack
  | (tag, nodes) :: rest, .text c => (tag, nodes ++ [.char c]) :: rest
  | stack, .start tag => (tag, []) :: stack
  | (tag, nodes) :: (outer, before) :: rest, .stop name =>
      if tag.name = name then
        (outer, before ++ [.element tag nodes]) :: rest
      else []
  | _, _ => []

/-- The forest of a document. -/
def read (document : List Char) : Option (List Node) :=
  match (scan .text document).1,
      (scan .text document).2.foldl build [(⟨[], []⟩, [])] with
  | .text, [(_, nodes)] => some nodes
  | _, _ => none

/-- A piece of a document whose elements are all closed. -/
structure Denotes (piece : List Char) (nodes : List Node) : Prop where
  closed : (scan .text piece).1 = .text
  build : ∀ (tag : Tag) (before : List Node) (rest : Stack),
    (scan .text piece).2.foldl build ((tag, before) :: rest) =
      (tag, before ++ nodes) :: rest

theorem Denotes.read_eq {document : List Char} {nodes : List Node}
    (h : Denotes document nodes) : read document = some nodes := by
  rw [read, h.closed, h.build]
  rfl

theorem denotes_nil : Denotes [] [] where
  closed := rfl
  build tag before rest := by
    rw [List.append_nil]
    rfl

theorem Denotes.append {first second : List Char} {nodes nodes' : List Node}
    (h : Denotes first nodes) (h' : Denotes second nodes') :
    Denotes (first ++ second) (nodes ++ nodes') where
  closed := by
    rw [scan_append, h.closed]
    exact h'.closed
  build tag before rest := by
    rw [scan_append, h.closed, List.foldl_append, h.build, h'.build,
      List.append_assoc]

theorem denotes_flatMap {α : Type} {values : List α} {f : α → List Char}
    {g : α → List Node} (h : ∀ a ∈ values, Denotes (f a) (g a)) :
    Denotes (values.flatMap f) (values.flatMap g) := by
  induction values with
  | nil => exact denotes_nil
  | cons a rest ih =>
      rw [List.flatMap_cons, List.flatMap_cons]
      exact (h a List.mem_cons_self).append
        (ih fun b hb => h b (List.mem_cons_of_mem _ hb))

theorem foldl_build_text (text : List Char) (tag : Tag) (before : List Node)
    (rest : Stack) :
    (text.map Item.text).foldl Xml.build ((tag, before) :: rest) =
      (tag, before ++ text.map .char) :: rest := by
  induction text generalizing before with
  | nil => rw [List.map_nil, List.map_nil, List.append_nil, List.foldl_nil]
  | cons c text ih =>
      rw [List.map_cons, List.foldl_cons, Xml.build, ih, List.append_assoc]
      rfl

/-- A piece that is read as text denotes the text. -/
theorem denotes_of_text {piece text : List Char}
    (h : scan .text piece = (.text, text.map .text)) :
    Denotes piece (text.map .char) where
  closed := congrArg Prod.fst h
  build tag before rest := by
    rw [h]
    exact foldl_build_text text tag before rest

theorem denotes_char {c : Char} (hopen : c ≠ '<') (hreference : c ≠ '&') :
    Denotes [c] [.char c] := by
  refine @denotes_of_text [c] [c] ?_
  rw [scan, step, if_neg hopen, if_neg hreference]
  rfl

/-- A text in which nothing starts. -/
def IsPlain (text : List Char) : Prop :=
  ∀ c ∈ text, c ≠ '<' ∧ c ≠ '&'

instance (text : List Char) : Decidable (IsPlain text) :=
  List.decidableBAll (fun c => c ≠ '<' ∧ c ≠ '&') text

theorem IsPlain.denotes {text : List Char} (h : IsPlain text) :
    Denotes text (text.map .char) := by
  induction text with
  | nil => exact denotes_nil
  | cons c rest ih =>
      obtain ⟨hopen, hreference⟩ := h c List.mem_cons_self
      exact (denotes_char hopen hreference).append
        (ih fun d hd => h d (List.mem_cons_of_mem _ hd))

/-- A start tag. -/
def Opens (head : List Char) (tag : Tag) : Prop :=
  scan .text head = (.text, [.start tag])

instance (head : List Char) (tag : Tag) : Decidable (Opens head tag) :=
  inferInstanceAs (Decidable (scan .text head = (.text, [.start tag])))

/-- An end tag. -/
def Closes (tail : List Char) (name : List Char) : Prop :=
  scan .text tail = (.text, [.stop name])

instance (tail name : List Char) : Decidable (Closes tail name) :=
  inferInstanceAs (Decidable (scan .text tail = (.text, [.stop name])))

/-- What is between the tags of an element are its nodes. -/
theorem Denotes.element {head inner tail : List Char} {tag : Tag}
    {nodes : List Node} (hhead : Opens head tag) (h : Denotes inner nodes)
    (htail : Closes tail tag.name) :
    Denotes (head ++ inner ++ tail) [.element tag nodes] where
  closed := by
    rw [List.append_assoc, scan_append_of_eq hhead, scan_append, h.closed,
      htail]
  build outer before rest := by
    rw [List.append_assoc, scan_append_of_eq hhead, scan_append, h.closed,
      htail]
    show ([Item.start tag] ++ ((scan .text inner).2 ++
      [Item.stop tag.name])).foldl Xml.build ((outer, before) :: rest) = _
    rw [List.foldl_append, List.foldl_append]
    show ([Item.stop tag.name]).foldl Xml.build
      ((scan .text inner).2.foldl Xml.build
        ((tag, []) :: (outer, before) :: rest)) = _
    rw [h.build tag [] ((outer, before) :: rest), List.nil_append]
    show (if tag.name = tag.name then
      (outer, before ++ [Node.element tag nodes]) :: rest else []) = _
    rw [if_pos rfl]

/-! ## Tags by name -/

/-- A name as the tags of elements have it. -/
def IsName (name : List Char) : Prop :=
  (∀ c ∈ name, c ≠ '>' ∧ c ≠ '/' ∧ isSpace c = false) ∧
    name.head? ≠ none ∧ name.head? ≠ some '!' ∧ name.head? ≠ some '?'

instance (name : List Char) : Decidable (IsName name) :=
  have : Decidable (∀ c ∈ name, c ≠ '>' ∧ c ≠ '/' ∧ isSpace c = false) :=
    List.decidableBAll _ name
  inferInstanceAs (Decidable (_ ∧ _))

theorem scan_tagName {name read : List Char}
    (h : ∀ c ∈ name, c ≠ '>' ∧ c ≠ '/' ∧ isSpace c = false) :
    scan (.tagName read) (name ++ ['>']) =
      (.text, [.start ⟨read ++ name, []⟩]) := by
  induction name generalizing read with
  | nil =>
      rw [List.append_nil]
      rfl
  | cons c rest ih =>
      obtain ⟨hend, hslash, hspace⟩ := h c List.mem_cons_self
      rw [List.cons_append, scan, step, if_neg hend, if_neg hslash,
        if_neg (by rw [hspace]; exact Bool.false_ne_true)]
      rw [ih fun d hd => h d (List.mem_cons_of_mem _ hd), List.append_assoc]
      rfl

theorem scan_endTag {name read : List Char}
    (h : ∀ c ∈ name, c ≠ '>' ∧ c ≠ '/' ∧ isSpace c = false) :
    scan (.endTag read) (name ++ ['>']) = (.text, [.stop (read ++ name)]) := by
  induction name generalizing read with
  | nil =>
      rw [List.append_nil]
      rfl
  | cons c rest ih =>
      obtain ⟨hend, hslash, hspace⟩ := h c List.mem_cons_self
      rw [List.cons_append, scan, step, if_neg hend,
        if_neg (by rw [hspace]; exact Bool.false_ne_true)]
      rw [ih fun d hd => h d (List.mem_cons_of_mem _ hd), List.append_assoc]
      rfl

theorem IsName.opens {name : List Char} (h : IsName name) :
    Opens ('<' :: name ++ ['>']) ⟨name, []⟩ := by
  obtain ⟨hchars, hnone, hbang, hquestion⟩ := h
  cases name with
  | nil => exact absurd rfl hnone
  | cons c rest =>
      obtain ⟨-, hslash, -⟩ := hchars c List.mem_cons_self
      have hname := @scan_tagName rest [c]
        fun d hd => hchars d (List.mem_cons_of_mem _ hd)
      rw [Opens]
      show ((scan (step .tagOpen c).1 (rest ++ ['>'])).1,
        (step .tagOpen c).2 ++
          (scan (step .tagOpen c).1 (rest ++ ['>'])).2) = _
      rw [step, if_neg hslash, if_neg fun h => hbang (congrArg some h),
        if_neg fun h => hquestion (congrArg some h), hname]
      rfl

theorem IsName.closes {name : List Char} (h : IsName name) :
    Closes ('<' :: '/' :: name ++ ['>']) name :=
  @scan_endTag name [] h.1

/-- An element without attributes. -/
theorem Denotes.named {name inner : List Char} {nodes : List Node}
    (hname : IsName name) (h : Denotes inner nodes) :
    Denotes ('<' :: name ++ ['>'] ++ inner ++ ('<' :: '/' :: name ++ ['>']))
      [.element ⟨name, []⟩ nodes] :=
  h.element hname.opens hname.closes

/-! ## Character data -/

/-- A text with the ends of sections in it taken apart. -/
def splitEnds : List Char → List Char
  | ']' :: ']' :: '>' :: rest =>
      [']', ']', ']', ']', '>', '<', '!', '[', 'C', 'D', 'A', 'T', 'A', '[',
        '>'] ++ splitEnds rest
  | c :: rest => c :: splitEnds rest
  | [] => []

/-- The brackets that are pending are text unless they end the section, and
taking the ends apart keeps them from doing so. -/
theorem scan_splitEnds (text : List Char) {k : ℕ} (hk : k ≤ 2)
    (hpair : 0 < k → ∀ rest, text ≠ ']' :: '>' :: rest)
    (hend : k = 2 → ∀ rest, text ≠ '>' :: rest) :
    scan (.cdata k) (splitEnds text ++ [']', ']', '>']) =
      (.text, List.replicate k (.text ']') ++ text.map .text) := by
  induction text using splitEnds.induct generalizing k with
  | case1 rest ih =>
      have hnext := ih (Nat.zero_le 2) (fun h => absurd h (by omega))
        (fun h => absurd h (by omega))
      have hbreak : scan (.cdata k)
          [']', ']', ']', ']', '>', '<', '!', '[', 'C', 'D', 'A', 'T', 'A',
            '[', '>'] =
            (.cdata 0, List.replicate k (.text ']') ++
              [.text ']', .text ']', .text '>']) := by
        interval_cases k <;> decide
      rw [splitEnds, List.append_assoc, scan_append_of_eq hbreak, hnext]
      simp
  | case2 c rest hne ih =>
      rw [splitEnds.eq_2 c rest hne, List.cons_append, scan]
      by_cases hbracket : c = ']'
      · subst hbracket
        have hrest : ∀ rest', rest ≠ ']' :: '>' :: rest' :=
          fun rest' h => hne rest' rfl h
        have hclose : 0 < k → ∀ rest', rest ≠ '>' :: rest' := by
          intro hpos rest' h
          exact hpair hpos rest' (by rw [h])
        by_cases htwo : k = 2
        · subst htwo
          have hnext := ih (le_refl 2) (fun _ => hrest)
            (fun _ => hclose (by omega))
          rw [step, if_pos rfl, if_pos rfl, hnext]
          rfl
        · have hnext := ih (show k + 1 ≤ 2 by omega) (fun _ => hrest)
            (fun h => hclose (by omega))
          rw [step, if_pos rfl, if_neg htwo, hnext, List.replicate_succ']
          simp
      · have hnot : ¬ (c = '>' ∧ k = 2) := by
          rintro ⟨rfl, htwo⟩
          exact hend htwo rest rfl
        have hnext := ih (Nat.zero_le 2) (fun h => absurd h (by omega))
          (fun h => absurd h (by omega))
        rw [step, if_neg hbracket, if_neg hnot, hnext]
        simp
  | case3 =>
      show scan (.cdata k) [']', ']', '>'] = _
      interval_cases k <;> decide

/-- A section of character data denotes its text, whatever it contains. -/
theorem denotes_cdata (text : List Char) :
    Denotes ('<' :: '!' :: cdataStart ++ splitEnds text ++ [']', ']', '>'])
      (text.map .char) := by
  have hstart : scan .text ('<' :: '!' :: cdataStart) = (.cdata 0, []) := by
    decide
  have htext := scan_splitEnds text (Nat.zero_le 2)
    (fun h => absurd h (by omega)) (fun h => absurd h (by omega))
  refine denotes_of_text ?_
  rw [List.append_assoc, scan_append_of_eq hstart, htext]
  rfl

/-! ## Attributes -/

/-- A value of an attribute goes on with characters that are read as they are
meant. -/
theorem scan_value {piece : Char → List Char} {quote : Char}
    (h : ∀ (tag : Tag) (name read : List Char) (c : Char),
      scan (.value tag name quote read) (piece c) =
        (.value tag name quote (read ++ [c]), []))
    (text : List Char) (tag : Tag) (name read : List Char) :
    scan (.value tag name quote read) (text.flatMap piece) =
      (.value tag name quote (read ++ text), []) := by
  induction text generalizing read with
  | nil =>
      rw [List.append_nil]
      rfl
  | cons c rest ih =>
      rw [List.flatMap_cons, scan_append_of_eq (h tag name read c), ih,
        List.append_assoc]
      rfl

/-! ## What a forest holds -/

/-- The text of a forest, less that of its elements. -/
def text (nodes : List Node) : List Char :=
  nodes.filterMap fun
    | .char c => some c
    | .element _ _ => none

/-- The elements of a name, as what they hold. -/
def named (name : List Char) (nodes : List Node) : List (List Node) :=
  nodes.filterMap fun
    | .char _ => none
    | .element tag children => if tag.name = name then some children else none

@[simp] theorem text_map_char (chars : List Char) :
    text (chars.map .char) = chars := by
  rw [text, List.filterMap_map]
  exact List.filterMap_some

@[simp] theorem named_map_char (name chars : List Char) :
    named name (chars.map .char) = [] := by
  rw [named, List.filterMap_map, List.filterMap_eq_nil_iff]
  exact fun c _ => rfl

@[simp] theorem named_append (name : List Char) (first second : List Node) :
    named name (first ++ second) = named name first ++ named name second :=
  List.filterMap_append

theorem named_element (name : List Char) (tag : Tag)
    (children : List Node) :
    named name [.element tag children] =
      if tag.name = name then [children] else [] := by
  by_cases h : tag.name = name
  · simp [named, h]
  · simp [named, h]

theorem named_flatMap {α : Type} (name : List Char) (values : List α)
    (f : α → List Node) :
    named name (values.flatMap f) =
      values.flatMap fun a => named name (f a) :=
  List.filterMap_flatMap

end Darcbench.Xml
