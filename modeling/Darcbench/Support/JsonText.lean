import Darcbench.Support.Json
import Mathlib.Data.List.Induction

/-!
# Text of JSON trees

Trees written without white space, the members of an object in ascending order
of their keys.  How a number is written is a parameter.  Two trees with the same
text are equal, since the text of a tree tells where it ends as soon as a comma,
a closing bracket or nothing follows.
-/

namespace Darcbench.Json

variable {N : Type}

mutual

/-- Induction over a tree, its items and its members. -/
@[elab_as_elim]
theorem induction {motive : Json N → Prop} (null : motive .null)
    (bool : ∀ value, motive (.bool value))
    (number : ∀ value, motive (.number value))
    (string : ∀ value, motive (.string value))
    (array : ∀ items : List (Json N), (∀ a ∈ items, motive a) →
      motive (.array items))
    (object : ∀ keys vals, (∀ key, motive (vals key)) →
      motive (.object keys vals)) : ∀ tree, motive tree
  | .null => null
  | .bool value => bool value
  | .number value => number value
  | .string value => string value
  | .array items => array items
      (induction_items null bool number string array object items)
  | .object keys vals => object keys vals fun key =>
      induction null bool number string array object (vals key)

theorem induction_items {motive : Json N → Prop} (null : motive .null)
    (bool : ∀ value, motive (.bool value))
    (number : ∀ value, motive (.number value))
    (string : ∀ value, motive (.string value))
    (array : ∀ items : List (Json N), (∀ a ∈ items, motive a) →
      motive (.array items))
    (object : ∀ keys vals, (∀ key, motive (vals key)) →
      motive (.object keys vals)) :
    ∀ items : List (Json N), ∀ a ∈ items, motive a
  | [] => List.forall_mem_nil _
  | item :: items => List.forall_mem_cons.mpr
      ⟨induction null bool number string array object item,
        induction_items null bool number string array object items⟩

end

/-! ## Writing -/

def escape (c : Char) : List Char :=
  if c = '"' then ['\\', '"']
  else if c = '\\' then ['\\', '\\']
  else if c = '\n' then ['\\', 'n']
  else if c = '\r' then ['\\', 'r']
  else if c = '\t' then ['\\', 't']
  else [c]

def quote (s : String) : List Char :=
  '"' :: s.toList.flatMap escape ++ ['"']

/-- Texts with commas between them. -/
def separated : List (List Char) → List Char
  | [] => []
  | text :: rest => text ++ rest.flatMap fun next => ',' :: next

def memberText (member : String × List Char) : List Char :=
  quote member.1 ++ ':' :: member.2

section

variable (number : N → List Char)

mutual

def text : Json N → List Char
  | null => ['n', 'u', 'l', 'l']
  | bool true => ['t', 'r', 'u', 'e']
  | bool false => ['f', 'a', 'l', 's', 'e']
  | .number n => number n
  | string s => quote s
  | array items => '[' :: (separated (texts items) ++ [']'])
  | object keys vals =>
      '\x7b' :: (separated ((keys.attach.sort (· ≤ ·)).map fun key =>
        memberText (key.1, text (vals key))) ++ ['\x7d'])

def texts : List (Json N) → List (List Char)
  | [] => []
  | item :: items => text item :: texts items

end

theorem texts_eq_map (items : List (Json N)) :
    texts number items = items.map (text number) := by
  induction items with
  | nil => rfl
  | cons item items ih =>
      rw [texts, ih, List.map_cons]

end

/-! ## Quoted strings -/

/-- The first character of an escaped text, and what follows it. -/
def unescape : List Char → Option (Char × List Char)
  | [] => none
  | '\\' :: [] => none
  | '\\' :: 'n' :: rest => some ('\n', rest)
  | '\\' :: 'r' :: rest => some ('\r', rest)
  | '\\' :: 't' :: rest => some ('\t', rest)
  | '\\' :: c :: rest => some (c, rest)
  | '"' :: _ => none
  | c :: rest => some (c, rest)

theorem unescape_escape (c : Char) (rest : List Char) :
    unescape (escape c ++ rest) = some (c, rest) := by
  unfold escape
  split_ifs with hquote hslash hn hr ht
  · rw [hquote]
    rfl
  · rw [hslash]
    rfl
  · rw [hn]
    rfl
  · rw [hr]
    rfl
  · rw [ht]
    rfl
  · simp [unescape, hslash]

theorem flatMap_escape_inj {chars chars' rest rest' : List Char}
    (h : chars.flatMap escape ++ '"' :: rest =
      chars'.flatMap escape ++ '"' :: rest') :
    chars = chars' ∧ rest = rest' := by
  have hread := congrArg unescape h
  induction chars generalizing chars' with
  | nil =>
      cases chars' with
      | nil => exact ⟨rfl, (List.cons.inj h).2⟩
      | cons c' chars' =>
          rw [List.flatMap_cons, List.append_assoc, unescape_escape] at hread
          exact absurd hread (Option.some_ne_none _).symm
  | cons c chars ih =>
      rw [List.flatMap_cons, List.append_assoc, unescape_escape] at hread
      cases chars' with
      | nil => exact absurd hread (Option.some_ne_none _)
      | cons c' chars' =>
          rw [List.flatMap_cons, List.append_assoc, unescape_escape] at hread
          obtain ⟨rfl, hrest⟩ := Prod.mk.inj (Option.some.inj hread)
          obtain ⟨rfl, heq⟩ := ih hrest (congrArg unescape hrest)
          exact ⟨rfl, heq⟩

/-- A quoted string tells where it ends. -/
theorem quote_inj {s s' : String} {rest rest' : List Char}
    (h : quote s ++ rest = quote s' ++ rest') :
    s = s' ∧ rest = rest' := by
  simp only [quote, List.cons_append, List.append_assoc, List.nil_append,
    List.cons.injEq, true_and] at h
  obtain ⟨hchars, hrest⟩ := flatMap_escape_inj h
  exact ⟨String.toList_inj.mp hchars, hrest⟩

/-! ## Where a text ends -/

/-- The characters that may follow a tree. -/
def Stops : List Char → Prop
  | [] => True
  | c :: _ => c = ',' ∨ c = ']' ∨ c = '\x7d'

/-- The text of `a`, where it ends as it should, is the start of no text of
another value. -/
def Delimited {α : Type} (f : α → List Char) (a : α) : Prop :=
  ∀ b s t, Stops s → Stops t → f a ++ s = f b ++ t → a = b ∧ s = t

theorem stops_comma (s : List Char) : Stops (',' :: s) :=
  .inl rfl

/-- No text is empty or starts with a character that may follow a tree. -/
def Opens {α : Type} (f : α → List Char) : Prop :=
  ∀ a, ¬ Stops (f a)

theorem ne_stops_of_opens {α : Type} {f : α → List Char} (h : Opens f) (a : α)
    {s : List Char} (t : List Char) (hs : Stops s) :
    f a ++ t ≠ s := by
  intro heq
  cases ha : f a with
  | nil => exact h a (ha ▸ trivial)
  | cons c rest =>
      rw [← heq, ha] at hs
      exact h a (ha ▸ hs)

section

variable {α : Type} {f : α → List Char} {close : Char}

theorem stops_tails (hclose : Stops [close]) (items : List α)
    (s : List Char) :
    Stops (items.flatMap (fun a => ',' :: f a) ++ close :: s) := by
  cases items with
  | nil => exact hclose
  | cons a items => exact stops_comma _

theorem tails_inj (hclose : Stops [close]) (hne : close ≠ ',')
    {items items' : List α} (hitems : ∀ a ∈ items, Delimited f a)
    {s t : List Char}
    (h : items.flatMap (fun a => ',' :: f a) ++ close :: s =
      items'.flatMap (fun a => ',' :: f a) ++ close :: t) :
    items = items' ∧ s = t := by
  induction items generalizing items' with
  | nil =>
      cases items' with
      | nil => exact ⟨rfl, (List.cons.inj h).2⟩
      | cons a' items' => exact absurd (List.cons.inj h).1 hne
  | cons a items ih =>
      cases items' with
      | nil => exact absurd (List.cons.inj h).1.symm hne
      | cons a' items' =>
          simp only [List.flatMap_cons, List.cons_append, List.append_assoc,
            List.cons.injEq, true_and] at h
          obtain ⟨rfl, hrest⟩ := hitems a List.mem_cons_self a' _ _
            (stops_tails hclose items s) (stops_tails hclose items' t) h
          obtain ⟨rfl, hst⟩ := ih
            (fun b hb => hitems b (List.mem_cons_of_mem a hb)) hrest
          exact ⟨rfl, hst⟩

/-- A list between brackets tells where it ends if its items do. -/
theorem separated_inj (hclose : Stops [close]) (hne : close ≠ ',')
    (hopens : Opens f) {items items' : List α}
    (hitems : ∀ a ∈ items, Delimited f a) {s t : List Char}
    (h : separated (items.map f) ++ close :: s =
      separated (items'.map f) ++ close :: t) :
    items = items' ∧ s = t := by
  cases items with
  | nil =>
      cases items' with
      | nil => exact ⟨rfl, (List.cons.inj h).2⟩
      | cons a' items' =>
          rw [List.map_cons, separated, List.append_assoc] at h
          exact absurd h.symm (ne_stops_of_opens hopens a' _ hclose)
  | cons a items =>
      cases items' with
      | nil =>
          rw [List.map_cons, separated, List.append_assoc] at h
          exact absurd h (ne_stops_of_opens hopens a _ hclose)
      | cons a' items' =>
          simp only [List.map_cons, separated, List.append_assoc,
            List.flatMap_map] at h
          obtain ⟨rfl, hrest⟩ := hitems a List.mem_cons_self a' _ _
            (stops_tails hclose items s) (stops_tails hclose items' t) h
          obtain ⟨rfl, hst⟩ := tails_inj hclose hne
            (fun b hb => hitems b (List.mem_cons_of_mem a hb)) hrest
          exact ⟨rfl, hst⟩

end

/-! ## Trees -/

/-- The characters of number literals. -/
def isNumberChar (c : Char) : Bool :=
  c.isDigit || c = '-' || c = '+' || c = '.' || c = 'e'

/-- Different numbers have different literals. -/
structure Literals (number : N → List Char) : Prop where
  injective : Function.Injective number
  ne_nil : ∀ n, number n ≠ []
  mem : ∀ n, ∀ c ∈ number n, isNumberChar c = true

/-- What the first character of a tree shows about it. -/
inductive Kind where
  | null
  | true
  | false
  | number
  | string
  | array
  | object
  | other
  deriving DecidableEq

def kindOfChar (c : Char) : Kind :=
  if isNumberChar c then .number
  else if c = 'n' then .null
  else if c = 't' then .true
  else if c = 'f' then .false
  else if c = '"' then .string
  else if c = '[' then .array
  else if c = '\x7b' then .object
  else .other

def kind : Json N → Kind
  | null => .null
  | bool true => .true
  | bool false => .false
  | number _ => .number
  | string _ => .string
  | array _ => .array
  | object _ _ => .object

section

variable {number : N → List Char} (hnumber : Literals number)

include hnumber

theorem exists_text_eq_cons (tree : Json N) :
    ∃ c rest, text number tree = c :: rest ∧ kindOfChar c = tree.kind := by
  cases tree with
  | null => exact ⟨_, _, rfl, rfl⟩
  | bool value => cases value <;> exact ⟨_, _, rfl, rfl⟩
  | number n =>
      obtain ⟨c, rest, hn⟩ := List.exists_cons_of_ne_nil (hnumber.ne_nil n)
      refine ⟨c, rest, hn, ?_⟩
      rw [kindOfChar, hnumber.mem n c (hn ▸ List.mem_cons_self)]
      rfl
  | string s => exact ⟨_, _, rfl, rfl⟩
  | array items => exact ⟨_, _, rfl, rfl⟩
  | object keys vals => exact ⟨_, _, rfl, rfl⟩

theorem opens_text : Opens (text number) := by
  intro tree hstops
  obtain ⟨c, rest, htext, hkind⟩ := exists_text_eq_cons hnumber tree
  rw [htext] at hstops
  have hother : kindOfChar c = .other := by
    rcases hstops with rfl | rfl | rfl <;> rfl
  rw [hother] at hkind
  cases tree with
  | bool value => cases value <;> exact Kind.noConfusion hkind
  | _ => exact Kind.noConfusion hkind

theorem kind_eq_of_text_append_eq {a b : Json N} {s t : List Char}
    (h : text number a ++ s = text number b ++ t) :
    a.kind = b.kind := by
  obtain ⟨c, rest, ha, hkind⟩ := exists_text_eq_cons hnumber a
  obtain ⟨c', rest', hb, hkind'⟩ := exists_text_eq_cons hnumber b
  rw [ha, hb] at h
  rw [← hkind, ← hkind', (List.cons.inj h).1]

theorem takeWhile_number (n : N) {s : List Char} (hs : Stops s) :
    (number n ++ s).takeWhile isNumberChar = number n := by
  have hstop : s.takeWhile isNumberChar = [] := by
    cases s with
    | nil => rfl
    | cons c s =>
        rcases hs with rfl | rfl | rfl <;> rfl
  rw [List.takeWhile_append_of_pos (hnumber.mem n), hstop, List.append_nil]

theorem delimited_number (n n' : N) {s t : List Char} (hs : Stops s)
    (ht : Stops t) (h : number n ++ s = number n' ++ t) :
    n = n' ∧ s = t := by
  have htake := congrArg (List.takeWhile isNumberChar) h
  rw [takeWhile_number hnumber n hs, takeWhile_number hnumber n' ht] at htake
  obtain rfl := hnumber.injective htake
  exact ⟨rfl, List.append_cancel_left h⟩

end

/-- Objects with the same members are the same. -/
theorem object_eq_of_entries_eq {keys keys' : Finset String}
    {vals : {key // key ∈ keys} → Json N}
    {vals' : {key // key ∈ keys'} → Json N}
    (h : (object keys vals).entries = (object keys' vals').entries) :
    object keys vals = object keys' vals' := by
  have hentries := Option.some.inj h
  have hkeys : keys = keys' := by
    ext key
    have hmem := congrArg (fun entries => key ∈ entries.map Prod.fst) hentries
    simpa using hmem
  subst hkeys
  congr 1
  funext key
  have hval := List.map_inj_left.mp hentries key
    ((Finset.mem_sort _).mpr (Finset.mem_attach keys key))
  exact (Prod.mk.inj hval).2

/-- The member of an object tells where it ends if its value does. -/
theorem delimited_member {number : N → List Char} {member : String × Json N}
    (h : Delimited (text number) member.2) :
    Delimited (fun m : String × Json N =>
      memberText (m.1, text number m.2)) member := by
  intro m' s t hs ht heq
  simp only [memberText, List.append_assoc, List.cons_append] at heq
  obtain ⟨hkey, hrest⟩ := quote_inj heq
  obtain ⟨hvalue, hst⟩ := h m'.2 s t hs ht (List.cons.inj hrest).2
  exact ⟨Prod.ext hkey hvalue, hst⟩

theorem opens_member (number : N → List Char) :
    Opens fun m : String × Json N => memberText (m.1, text number m.2) := by
  intro member hstops
  rcases hstops with h | h | h <;> exact absurd h (by decide)

theorem text_object (number : N → List Char) (keys : Finset String)
    (vals : {key // key ∈ keys} → Json N) :
    text number (object keys vals) =
      '\x7b' :: (separated (((keys.attach.sort (· ≤ ·)).map fun key =>
        (key.1, vals key)).map fun m : String × Json N =>
          memberText (m.1, text number m.2)) ++ ['\x7d']) := by
  rw [text, List.map_map]
  rfl

/-- A tree, in a text that ends as it should, tells where it ends. -/
theorem delimited_text {number : N → List Char} (hnumber : Literals number)
    (tree : Json N) : Delimited (text number) tree := by
  induction tree using induction with
  | null =>
      intro b s t hs ht h
      have hkind := kind_eq_of_text_append_eq hnumber h
      cases b with
      | null => exact ⟨rfl, List.append_cancel_left h⟩
      | bool value => cases value <;> exact Kind.noConfusion hkind
      | _ => exact Kind.noConfusion hkind
  | bool value =>
      intro b s t hs ht h
      have hkind := kind_eq_of_text_append_eq hnumber h
      cases b with
      | bool value' =>
          obtain rfl : value = value' := by
            cases value <;> cases value' <;> first | rfl | cases hkind
          exact ⟨rfl, List.append_cancel_left h⟩
      | _ => cases value <;> exact Kind.noConfusion hkind
  | number n =>
      intro b s t hs ht h
      have hkind := kind_eq_of_text_append_eq hnumber h
      cases b with
      | number n' =>
          obtain ⟨rfl, hst⟩ := delimited_number hnumber n n' hs ht h
          exact ⟨rfl, hst⟩
      | bool value => cases value <;> exact Kind.noConfusion hkind
      | _ => exact Kind.noConfusion hkind
  | string text =>
      intro b s t hs ht h
      have hkind := kind_eq_of_text_append_eq hnumber h
      cases b with
      | string text' =>
          obtain ⟨rfl, hst⟩ := quote_inj h
          exact ⟨rfl, hst⟩
      | bool value => cases value <;> exact Kind.noConfusion hkind
      | _ => exact Kind.noConfusion hkind
  | array items ih =>
      intro b s t hs ht h
      have hkind := kind_eq_of_text_append_eq hnumber h
      cases b with
      | array items' =>
          simp only [text, texts_eq_map, List.cons_append, List.append_assoc,
            List.nil_append, List.cons.injEq, true_and] at h
          obtain ⟨rfl, hst⟩ := separated_inj (.inr (.inl rfl)) (by decide)
            (opens_text hnumber) ih h
          exact ⟨rfl, hst⟩
      | bool value => cases value <;> exact Kind.noConfusion hkind
      | _ => exact Kind.noConfusion hkind
  | object keys vals ih =>
      intro b s t hs ht h
      have hkind := kind_eq_of_text_append_eq hnumber h
      cases b with
      | object keys' vals' =>
          simp only [text_object, List.cons_append, List.append_assoc,
            List.nil_append, List.cons.injEq, true_and] at h
          have hmembers : ∀ m ∈ (keys.attach.sort (· ≤ ·)).map fun key =>
              (key.1, vals key), Delimited (fun m : String × Json N =>
                memberText (m.1, text number m.2)) m := by
            intro m hm
            obtain ⟨key, -, rfl⟩ := List.mem_map.mp hm
            exact delimited_member (ih key)
          obtain ⟨hentries, hst⟩ := separated_inj (.inr (.inr rfl))
            (by decide) (opens_member number) hmembers h
          exact ⟨object_eq_of_entries_eq (congrArg some hentries), hst⟩
      | bool value => cases value <;> exact Kind.noConfusion hkind
      | _ => exact Kind.noConfusion hkind

/-- Trees with the same text are equal. -/
theorem text_injective {number : N → List Char} (hnumber : Literals number) :
    Function.Injective (text number) := fun a b h =>
  (delimited_text hnumber a b [] [] trivial trivial
    (by rw [h])).1

/-! ## Line breaks -/

theorem notMem_quote {c : Char} (hc : c = '\n' ∨ c = '\r') (s : String) :
    c ∉ quote s := by
  have hescape : ∀ d, c ∉ escape d := by
    intro d
    unfold escape
    split_ifs with hquote hslash hn hr ht
    case neg =>
      intro h
      obtain rfl := List.mem_singleton.mp h
      exact hc.elim hn hr
    all_goals rcases hc with rfl | rfl <;> decide
  intro h
  rw [quote, List.cons_append, List.mem_cons, List.mem_append,
    List.mem_flatMap, List.mem_singleton] at h
  rcases h with rfl | ⟨d, -, h⟩ | rfl
  · simp at hc
  · exact hescape d h
  · simp at hc

theorem notMem_separated {c : Char} (hc : c ≠ ',') {texts : List (List Char)}
    (h : ∀ text ∈ texts, c ∉ text) :
    c ∉ separated texts := by
  cases texts with
  | nil => exact List.not_mem_nil
  | cons text texts =>
      rw [separated, List.mem_append, List.mem_flatMap]
      rintro (hmem | ⟨next, hnext, hmem⟩)
      · exact h text List.mem_cons_self hmem
      · rcases List.mem_cons.mp hmem with hcomma | hmem
        · exact hc hcomma
        · exact h next (List.mem_cons_of_mem _ hnext) hmem

/-- A text has no line breaks if the numbers have none. -/
theorem notMem_text {number : N → List Char} {c : Char}
    (hc : c = '\n' ∨ c = '\r') (hnumber : ∀ n, c ∉ number n) (tree : Json N) :
    c ∉ tree.text number := by
  have hcomma : c ≠ ',' := by rcases hc with rfl | rfl <;> decide
  have hends : c ∉ ['[', ']', '\x7b', '\x7d', ':'] := by
    rcases hc with rfl | rfl <;> decide
  simp only [List.mem_cons, List.not_mem_nil, or_false, not_or] at hends
  obtain ⟨hopen, hclose, hbrace, hend, hcolon⟩ := hends
  induction tree using Json.induction with
  | null =>
      rw [text]
      rcases hc with rfl | rfl <;> decide
  | bool value =>
      cases value <;> rw [text] <;> rcases hc with rfl | rfl <;> decide
  | number value => exact hnumber value
  | string value => exact notMem_quote hc value
  | array items ih =>
      have hitems : c ∉ separated (items.map (text number)) := by
        apply notMem_separated hcomma
        intro t ht
        obtain ⟨item, hitem, rfl⟩ := List.mem_map.mp ht
        exact ih item hitem
      rw [text, texts_eq_map, List.mem_cons, List.mem_append,
        List.mem_singleton]
      exact not_or.mpr ⟨hopen, not_or.mpr ⟨hitems, hclose⟩⟩
  | object keys vals ih =>
      have hmember : ∀ key, c ∉ memberText (key.1, text number (vals key)) := by
        intro key h
        rw [memberText, List.mem_append, List.mem_cons] at h
        rcases h with h | h | h
        · exact notMem_quote hc _ h
        · exact hcolon h
        · exact ih key h
      have hmembers : c ∉ separated ((keys.attach.sort (· ≤ ·)).map fun key =>
          memberText (key.1, text number (vals key))) := by
        apply notMem_separated hcomma
        intro t ht
        obtain ⟨key, -, rfl⟩ := List.mem_map.mp ht
        exact hmember key
      rw [text, List.mem_cons, List.mem_append, List.mem_singleton]
      exact not_or.mpr ⟨hbrace, not_or.mpr ⟨hmembers, hend⟩⟩

end Darcbench.Json
