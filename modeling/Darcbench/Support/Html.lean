import Mathlib.Data.List.Basic

/-!
# Reading HTML

A document is read character by character.  What is found is a sequence of tags
with their attributes, and of the characters of the text between them, with the
character references replaced.
-/

namespace Darcbench.Html

/-- A start or end tag. -/
structure Tag where
  closing : Bool
  name : List Char
  attributes : List (List Char × List Char)
  deriving DecidableEq

/-- What is found in a document. -/
inductive Item where
  | tag (tag : Tag)
  /-- A declaration such as the document type. -/
  | declaration (content : List Char)
  | text (c : Char)
  deriving DecidableEq

/-- The place that has been reached. -/
inductive State where
  | text
  /-- After an ampersand. -/
  | reference (read : List Char)
  | tagOpen
  | declaration (read : List Char)
  | tagName (closing : Bool) (read : List Char)
  | beforeAttribute (tag : Tag)
  | attributeName (tag : Tag) (read : List Char)
  | beforeValue (tag : Tag) (name : List Char)
  | quotedValue (tag : Tag) (name : List Char) (quote : Char)
      (read : List Char)
  | plainValue (tag : Tag) (name : List Char) (read : List Char)
  deriving DecidableEq

/-- The character that a reference stands for. -/
def decode (name : List Char) : Option Char :=
  if name = ['a', 'm', 'p'] then some '&'
  else if name = ['l', 't'] then some '<'
  else if name = ['g', 't'] then some '>'
  else if name = ['q', 'u', 'o', 't'] then some '"'
  else if name = ['#', 'x', '2', '7'] then some '\''
  else if name = ['m', 'i', 'd', 'd', 'o', 't'] then some '·'
  else if name = ['m', 'd', 'a', 's', 'h'] then some '—'
  else if name = ['d', 'e', 'g'] then some '°'
  else none

/-- An ampersand that does not start a reference is text. -/
def literalReference (read : List Char) : List Item :=
  ('&' :: read).map .text

def isSpace (c : Char) : Bool :=
  c = ' ' || c = '\n' || c = '\t' || c = '\r' || c = '\x0c'

def Tag.withAttribute (tag : Tag) (name value : List Char) : Tag :=
  { tag with attributes := tag.attributes ++ [(name, value)] }

/-- One character of the text between tags. -/
def stepText (c : Char) : State × List Item :=
  if c = '<' then (.tagOpen, [])
  else if c = '&' then (.reference [], [])
  else (.text, [.text c])

/-- One character of a document. -/
def step : State → Char → State × List Item
  | .text, c => stepText c
  | .reference read, c =>
      if c = ';' then
        match decode read with
        | some decoded => (.text, [.text decoded])
        | none => (.text, literalReference read ++ [.text ';'])
      else if c.isAlphanum || c = '#' then
        (.reference (read ++ [c]), [])
      else
        ((stepText c).1, literalReference read ++ (stepText c).2)
  | .tagOpen, c =>
      if c = '/' then (.tagName true [], [])
      else if c = '!' then (.declaration [], [])
      else if c.isAlpha then (.tagName false [c], [])
      else ((stepText c).1, .text '<' :: (stepText c).2)
  | .declaration read, c =>
      if c = '>' then (.text, [.declaration read])
      else (.declaration (read ++ [c]), [])
  | .tagName closing read, c =>
      if c = '>' then (.text, [.tag ⟨closing, read, []⟩])
      else if isSpace c || c = '/' then
        (.beforeAttribute ⟨closing, read, []⟩, [])
      else (.tagName closing (read ++ [c]), [])
  | .beforeAttribute tag, c =>
      if c = '>' then (.text, [.tag tag])
      else if isSpace c || c = '/' then (.beforeAttribute tag, [])
      else (.attributeName tag [c], [])
  | .attributeName tag read, c =>
      if c = '>' then (.text, [.tag (tag.withAttribute read [])])
      else if c = '=' then (.beforeValue tag read, [])
      else if isSpace c || c = '/' then
        (.beforeAttribute (tag.withAttribute read []), [])
      else (.attributeName tag (read ++ [c]), [])
  | .beforeValue tag name, c =>
      if c = '>' then (.text, [.tag (tag.withAttribute name [])])
      else if c = '"' || c = '\'' then (.quotedValue tag name c [], [])
      else if isSpace c then (.beforeValue tag name, [])
      else (.plainValue tag name [c], [])
  | .quotedValue tag name quote read, c =>
      if c = quote then (.beforeAttribute (tag.withAttribute name read), [])
      else (.quotedValue tag name quote (read ++ [c]), [])
  | .plainValue tag name read, c =>
      if c = '>' then (.text, [.tag (tag.withAttribute name read)])
      else if isSpace c then
        (.beforeAttribute (tag.withAttribute name read), [])
      else (.plainValue tag name (read ++ [c]), [])

/-- Reads a document from a place on. -/
def scan (s : State) : List Char → State × List Item
  | [] => (s, [])
  | c :: rest =>
      ((scan (step s c).1 rest).1, (step s c).2 ++ (scan (step s c).1 rest).2)

/-- What is found in a whole document. -/
def items (document : List Char) : List Item :=
  (scan .text document).2

def Item.tag? : Item → Option Tag
  | .tag found => some found
  | _ => none

/-- The tags of a document, with their attributes. -/
def tags (document : List Char) : List Tag :=
  (items document).filterMap Item.tag?

example : items "<b class=\"x\">1 &lt; 2</b>".toList =
    [.tag ⟨false, ['b'], [("class".toList, ['x'])]⟩, .text '1', .text ' ',
      .text '<', .text ' ', .text '2', .tag ⟨true, ['b'], []⟩] := by
  decide

theorem scan_append (s : State) (first second : List Char) :
    scan s (first ++ second) =
      ((scan (scan s first).1 second).1,
        (scan s first).2 ++ (scan (scan s first).1 second).2) := by
  induction first generalizing s with
  | nil => rfl
  | cons c rest ih =>
      rw [List.cons_append, scan, scan, ih, List.append_assoc]

/-- A piece of a document that ends between tags if it starts there. -/
def IsClosed (piece : List Char) : Prop :=
  (scan .text piece).1 = .text

instance (piece : List Char) : Decidable (IsClosed piece) :=
  inferInstanceAs (Decidable ((scan .text piece).1 = .text))

theorem isClosed_nil : IsClosed [] := rfl

theorem IsClosed.append {first second : List Char} (hfirst : IsClosed first)
    (hsecond : IsClosed second) : IsClosed (first ++ second) := by
  rw [IsClosed] at hfirst ⊢
  rw [scan_append, hfirst]
  exact hsecond

/-- Closed pieces are read on their own. -/
theorem IsClosed.items_append {first : List Char} (hfirst : IsClosed first)
    (second : List Char) : items (first ++ second) =
      items first ++ items second := by
  rw [IsClosed] at hfirst
  rw [items, scan_append, hfirst]
  rfl

/-! ## Text -/

/-- A piece that is read as the text itself. -/
def IsText (piece text : List Char) : Prop :=
  scan .text piece = (.text, text.map .text)

instance (piece text : List Char) : Decidable (IsText piece text) :=
  inferInstanceAs (Decidable (scan .text piece = (.text, text.map .text)))

theorem IsText.isClosed {piece text : List Char} (h : IsText piece text) :
    IsClosed piece :=
  congrArg Prod.fst h

theorem IsText.items_eq {piece text : List Char} (h : IsText piece text) :
    items piece = text.map .text :=
  congrArg Prod.snd h

theorem isText_nil : IsText [] [] := rfl

theorem IsText.append {piece piece' text text' : List Char}
    (h : IsText piece text) (h' : IsText piece' text') :
    IsText (piece ++ piece') (text ++ text') := by
  rw [IsText] at h h' ⊢
  rw [scan_append, h, List.map_append]
  exact congrArg (fun found => (found.1, text.map Item.text ++ found.2)) h'

/-- A character that does not start anything is text. -/
theorem isText_singleton {c : Char} (hopen : c ≠ '<')
    (hreference : c ≠ '&') : IsText [c] [c] := by
  rw [IsText, scan, step, stepText, if_neg hopen, if_neg hreference]
  rfl

/-- A text in which nothing starts. -/
def IsPlain (text : List Char) : Prop :=
  ∀ c ∈ text, c ≠ '<' ∧ c ≠ '&'

instance (text : List Char) : Decidable (IsPlain text) :=
  List.decidableBAll (fun c => c ≠ '<' ∧ c ≠ '&') text

theorem IsPlain.append {first second : List Char} (hfirst : IsPlain first)
    (hsecond : IsPlain second) : IsPlain (first ++ second) := by
  intro c hc
  rcases List.mem_append.mp hc with hc | hc
  · exact hfirst c hc
  · exact hsecond c hc

theorem IsPlain.isText {text : List Char} (h : IsPlain text) :
    IsText text text := by
  induction text with
  | nil => exact isText_nil
  | cons c rest ih =>
      obtain ⟨hopen, hreference⟩ := h c List.mem_cons_self
      have hrest : IsPlain rest := fun d hd => h d (List.mem_cons_of_mem _ hd)
      exact (isText_singleton hopen hreference).append (ih hrest)

/-! ## Tags -/

theorem IsClosed.tags_append {first : List Char} (hfirst : IsClosed first)
    (second : List Char) : tags (first ++ second) =
      tags first ++ tags second := by
  rw [tags, hfirst.items_append, List.filterMap_append]
  rfl

theorem tags_text (text : List Char) :
    (text.map Item.text).filterMap Item.tag? = [] := by
  induction text with
  | nil => rfl
  | cons c rest ih => exact ih

/-- Outside tags, a character that opens none leaves a place outside tags. -/
theorem step_outside {s : State} (hs : s = .text ∨ ∃ read, s = .reference read)
    {c : Char} (hc : c ≠ '<') :
    ((step s c).1 = .text ∨ ∃ read, (step s c).1 = .reference read) ∧
      (step s c).2.filterMap Item.tag? = [] := by
  have htext : ((stepText c).1 = .text ∨
      ∃ read, (stepText c).1 = .reference read) ∧
        (stepText c).2.filterMap Item.tag? = [] := by
    rw [stepText, if_neg hc]
    by_cases hamp : c = '&'
    · rw [if_pos hamp]
      exact ⟨Or.inr ⟨[], rfl⟩, rfl⟩
    · rw [if_neg hamp]
      exact ⟨Or.inl rfl, rfl⟩
  rcases hs with rfl | ⟨read, rfl⟩
  · exact htext
  · rw [step]
    by_cases hend : c = ';'
    · rw [if_pos hend]
      cases decode read with
      | some decoded => exact ⟨Or.inl rfl, rfl⟩
      | none =>
          refine ⟨Or.inl rfl, ?_⟩
          rw [List.filterMap_append, literalReference, tags_text]
          rfl
    · rw [if_neg hend]
      by_cases hname : (c.isAlphanum || c = '#') = true
      · rw [if_pos hname]
        exact ⟨Or.inr ⟨_, rfl⟩, rfl⟩
      · rw [if_neg hname]
        refine ⟨htext.1, ?_⟩
        rw [List.filterMap_append, literalReference, tags_text, htext.2]
        rfl

/-- Text without an opening bracket has no tags. -/
theorem tags_eq_nil {piece : List Char} (h : '<' ∉ piece) : tags piece = [] := by
  have hscan : ∀ (chars : List Char) (s : State), '<' ∉ chars →
      (s = .text ∨ ∃ read, s = .reference read) →
        (scan s chars).2.filterMap Item.tag? = [] := by
    intro chars
    induction chars with
    | nil => exact fun s _ _ => rfl
    | cons c rest ih =>
        intro s hchars hs
        have hc : c ≠ '<' := by
          rintro rfl
          exact hchars List.mem_cons_self
        obtain ⟨hnext, hnone⟩ := step_outside hs hc
        rw [scan, List.filterMap_append, hnone, List.nil_append]
        exact ih _ (fun hmem => hchars (List.mem_cons_of_mem _ hmem)) hnext
  exact hscan piece .text h (Or.inl rfl)

end Darcbench.Html
