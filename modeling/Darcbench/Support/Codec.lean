import Darcbench.Support.BTreeMap
import Darcbench.Support.Json
import Mathlib.Data.List.Nodup
import Mathlib.Logic.Equiv.Defs

/-!
# Lawful codecs for JSON trees

A codec writes a value as a JSON tree under an ambient policy and reads trees
back.  What a policy hides is described by `mask`, and what the format cannot
carry at all (a number without a literal, for example) by `Representable`.
The round trip is a field of the structure, so a codec that loses data cannot
be built and every combinator proves its own round trip once.
-/

namespace Darcbench

/-- Distinct names for the members of an enumeration. -/
structure Naming (K : Type) where
  name : K → String
  members : List K
  mem : ∀ k, k ∈ members
  nodup : (members.map name).Nodup

namespace Naming

variable {K : Type}

theorem name_injective (naming : Naming K) :
    Function.Injective naming.name := fun k l h =>
  List.inj_on_of_nodup_map naming.nodup (naming.mem k) (naming.mem l) h

/-- The member with the given name. -/
def find? (naming : Naming K) (s : String) : Option K :=
  naming.members.find? fun k => naming.name k == s

@[simp] theorem find?_name (naming : Naming K) (k : K) :
    naming.find? (naming.name k) = some k := by
  have hsome : (naming.find? (naming.name k)).isSome := by
    rw [find?, List.find?_isSome]
    exact ⟨k, naming.mem k, by simp⟩
  obtain ⟨l, hl⟩ := Option.isSome_iff_exists.mp hsome
  have hname : naming.name l = naming.name k := by
    simpa using List.find?_some hl
  rw [hl, naming.name_injective hname]

end Naming

/-- A representation of `α` by JSON trees with numbers in `N`, written under
policies in `P`. -/
structure Codec (N P α : Type) where
  encode : P → α → Json N
  decode : Json N → Option α
  /-- What a value written under a policy reads back as. -/
  mask : P → α → α
  /-- The values whose representation can be read back. -/
  Representable : α → Prop
  decode_encode : ∀ p a, Representable a →
    decode (encode p a) = some (mask p a)
  encode_mask : ∀ p a, encode p (mask p a) = encode p a
  representable_of_decode : ∀ j a, decode j = some a → Representable a

namespace Codec

variable {N P α β : Type}

/-- Two representable values written alike differ in nothing but what the
policy hides. -/
theorem mask_eq_of_encode_eq
    (c : Codec N P α) {p : P} {a b : α}
    (ha : c.Representable a) (hb : c.Representable b)
    (h : c.encode p a = c.encode p b) :
    c.mask p a = c.mask p b := by
  have hdecode := c.decode_encode p a ha
  rw [h, c.decode_encode p b hb] at hdecode
  exact (Option.some.inj hdecode).symm

/-- Values that differ in nothing but what the policy hides are written
alike. -/
theorem encode_eq_of_mask_eq
    (c : Codec N P α) {p : P} {a b : α} (h : c.mask p a = c.mask p b) :
    c.encode p a = c.encode p b := by
  rw [← c.encode_mask p a, h, c.encode_mask p b]

theorem representable_mask
    (c : Codec N P α) (p : P) {a : α} (ha : c.Representable a) :
    c.Representable (c.mask p a) :=
  c.representable_of_decode _ _ (c.decode_encode p a ha)

/-- No policy hides anything of a value. -/
def Plain (c : Codec N P α) : Prop :=
  ∀ p a, c.mask p a = a

/-! ## Scalars -/

/-- A tree stands for itself. -/
def json : Codec N P (Json N) where
  encode _ a := a
  decode j := some j
  mask _ a := a
  Representable _ := True
  decode_encode _ _ _ := rfl
  encode_mask _ _ := rfl
  representable_of_decode _ _ _ := trivial

def bool : Codec N P Bool where
  encode _ a := .bool a
  decode
    | .bool a => some a
    | _ => none
  mask _ a := a
  Representable _ := True
  decode_encode _ _ _ := rfl
  encode_mask _ _ := rfl
  representable_of_decode _ _ _ := trivial

def string : Codec N P String where
  encode _ a := .string a
  decode
    | .string a => some a
    | _ => none
  mask _ a := a
  Representable _ := True
  decode_encode _ _ _ := rfl
  encode_mask _ _ := rfl
  representable_of_decode _ _ _ := trivial

/-- Numbers of which only some have a literal; the others are written as
`null`, which is not read back. -/
def number (toLiteral : α → Option N) (ofLiteral : N → Option α)
    (hround : ∀ a n, toLiteral a = some n → ofLiteral n = some a)
    (hread : ∀ n a, ofLiteral n = some a → (toLiteral a).isSome) :
    Codec N P α where
  encode _ a :=
    match toLiteral a with
    | some n => .number n
    | none => .null
  decode
    | .number n => ofLiteral n
    | _ => none
  mask _ a := a
  Representable a := (toLiteral a).isSome
  decode_encode _ a ha := by
    obtain ⟨n, hn⟩ := Option.isSome_iff_exists.mp ha
    simp only [hn]
    exact hround a n hn
  encode_mask _ _ := rfl
  representable_of_decode j a h := by
    cases j with
    | number n => exact hread n a h
    | _ => simp at h

/-- Values represented through another type of which they are a part. -/
def refine (c : Codec N P β) (repr : α → β) (ofRepr : β → Option α)
    (hround : ∀ a, ofRepr (repr a) = some a)
    (hread : ∀ b a, c.Representable b → ofRepr b = some a →
      c.Representable (repr a))
    (hplain : c.Plain) :
    Codec N P α where
  encode p a := c.encode p (repr a)
  decode j := (c.decode j).bind ofRepr
  mask _ a := a
  Representable a := c.Representable (repr a)
  decode_encode p a ha := by
    rw [c.decode_encode p (repr a) ha, hplain]
    exact hround a
  encode_mask _ _ := rfl
  representable_of_decode j a h := by
    obtain ⟨b, hb, hba⟩ := Option.bind_eq_some_iff.mp h
    exact hread b a (c.representable_of_decode j b hb) hba

/-- The same representation under another type. -/
def iso (e : α ≃ β) (c : Codec N P β) : Codec N P α where
  encode p a := c.encode p (e a)
  decode j := (c.decode j).map e.symm
  mask p a := e.symm (c.mask p (e a))
  Representable a := c.Representable (e a)
  decode_encode p a ha := by
    rw [c.decode_encode p (e a) ha, Option.map_some]
  encode_mask p a := by
    rw [e.apply_symm_apply, c.encode_mask]
  representable_of_decode j a h := by
    obtain ⟨b, hb, rfl⟩ := Option.map_eq_some_iff.mp h
    rw [e.apply_symm_apply]
    exact c.representable_of_decode j b hb

theorem plain_iso (e : α ≃ β) {c : Codec N P β} (h : c.Plain) :
    (iso e c).Plain := fun p a =>
  (congrArg e.symm (h p (e a))).trans (e.symm_apply_apply a)

/-- An enumeration written as the names of its members. -/
def names (naming : Naming α) : Codec N P α where
  encode _ a := .string (naming.name a)
  decode
    | .string s => naming.find? s
    | _ => none
  mask _ a := a
  Representable _ := True
  decode_encode _ a _ := naming.find?_name a
  encode_mask _ _ := rfl
  representable_of_decode _ _ _ := trivial

/-- The only value of a type without data. -/
def unit : Codec N P Unit where
  encode _ _ := .null
  decode
    | .null => some ()
    | _ => none
  mask _ a := a
  Representable _ := True
  decode_encode _ _ _ := rfl
  encode_mask _ _ := rfl
  representable_of_decode _ _ _ := trivial

/-! ## Containers -/

/-- An optional value, absent as `null`. -/
def option (c : Codec N P α) (hnull : c.decode .null = none) :
    Codec N P (Option α) where
  encode p
    | none => .null
    | some a => c.encode p a
  decode
    | .null => some none
    | j => (c.decode j).map some
  mask p a := a.map (c.mask p)
  Representable a := ∀ b, a = some b → c.Representable b
  decode_encode p a ha := by
    cases a with
    | none => rfl
    | some b =>
        have hb := c.decode_encode p b (ha b rfl)
        have hne : c.encode p b ≠ .null := by
          intro heq
          rw [heq, hnull] at hb
          exact absurd hb (by simp)
        simp only [Option.map_some]
        cases hj : c.encode p b with
        | null => exact absurd hj hne
        | _ => rw [hj] at hb; simp [hb]
  encode_mask p a := by
    cases a with
    | none => rfl
    | some b => exact c.encode_mask p b
  representable_of_decode j a h b hb := by
    subst hb
    cases j with
    | null => simp at h
    | _ =>
        obtain ⟨b', hb', heq⟩ := Option.map_eq_some_iff.mp h
        exact Option.some.inj heq ▸ c.representable_of_decode _ _ hb'

theorem plain_option (c : Codec N P α) (hnull : c.decode .null = none)
    (h : c.Plain) :
    (c.option hnull).Plain := by
  intro p a
  cases a with
  | none => rfl
  | some a => exact congrArg some (h p a)

theorem mapM_decode_map_encode
    (c : Codec N P α) (p : P) {items : List α}
    (h : ∀ a ∈ items, c.Representable a) :
    (items.map (c.encode p)).mapM c.decode = some (items.map (c.mask p)) := by
  induction items with
  | nil => rfl
  | cons a rest ih =>
      rw [List.map_cons, List.mapM_cons,
        c.decode_encode p a (h a (by simp)),
        ih fun b hb => h b (List.mem_cons_of_mem a hb)]
      rfl

theorem representable_of_mapM_decode
    (c : Codec N P α) {trees : List (Json N)} {items : List α}
    (h : trees.mapM c.decode = some items) :
    ∀ a ∈ items, c.Representable a := by
  induction trees generalizing items with
  | nil =>
      obtain rfl : [] = items := by simpa using h
      simp
  | cons j rest ih =>
      rw [List.mapM_cons] at h
      obtain ⟨a, ha, h⟩ := Option.bind_eq_some_iff.mp h
      obtain ⟨as, has, h⟩ := Option.bind_eq_some_iff.mp h
      obtain rfl : a :: as = items := by simpa using h
      intro b hb
      rcases List.mem_cons.mp hb with rfl | hb
      · exact c.representable_of_decode j b ha
      · exact ih has b hb

def list (c : Codec N P α) : Codec N P (List α) where
  encode p items := .array (items.map (c.encode p))
  decode
    | .array trees => trees.mapM c.decode
    | _ => none
  mask p items := items.map (c.mask p)
  Representable items := ∀ a ∈ items, c.Representable a
  decode_encode p _ h := mapM_decode_map_encode c p h
  encode_mask p items := by
    simp only [List.map_map, Json.array.injEq]
    exact List.map_congr_left fun a _ => c.encode_mask p a
  representable_of_decode j items h := by
    cases j with
    | array trees => exact representable_of_mapM_decode c h
    | _ => simp at h

theorem plain_list {c : Codec N P α} (h : c.Plain) : c.list.Plain := by
  intro p items
  exact (List.map_congr_left fun a _ => h p a).trans (List.map_id items)

/-- A pair, written as an array of two trees. -/
def tuple (c : Codec N P α) (d : Codec N P β) : Codec N P (α × β) where
  encode p a := .array [c.encode p a.1, d.encode p a.2]
  decode
    | .array [j, k] => (c.decode j).bind fun a =>
        (d.decode k).map fun b => (a, b)
    | _ => none
  mask p a := (c.mask p a.1, d.mask p a.2)
  Representable a := c.Representable a.1 ∧ d.Representable a.2
  decode_encode p a h := by
    simp [c.decode_encode p a.1 h.1, d.decode_encode p a.2 h.2]
  encode_mask p a := by
    simp [c.encode_mask, d.encode_mask]
  representable_of_decode j a h := by
    split at h
    · obtain ⟨b, hb, h⟩ := Option.bind_eq_some_iff.mp h
      obtain ⟨e, he, rfl⟩ := Option.map_eq_some_iff.mp h
      exact ⟨c.representable_of_decode _ _ hb,
        d.representable_of_decode _ _ he⟩
    · simp at h

theorem plain_tuple {c : Codec N P α} {d : Codec N P β}
    (hc : c.Plain) (hd : d.Plain) :
    (c.tuple d).Plain := fun p a =>
  Prod.ext (hc p a.1) (hd p a.2)

/-- A value together with the key it is stored under. -/
private def entry (c : Codec N P α) (kv : String × Json N) :
    Option (String × α) :=
  (c.decode kv.2).map fun a => (kv.1, a)

private theorem mapM_entry
    (c : Codec N P α) (p : P) {items : List (String × α)}
    (h : ∀ kv ∈ items, c.Representable kv.2) :
    (items.map fun kv => (kv.1, c.encode p kv.2)).mapM c.entry =
      some (items.map fun kv => (kv.1, c.mask p kv.2)) := by
  induction items with
  | nil => rfl
  | cons kv rest ih =>
      rw [List.map_cons, List.mapM_cons, entry,
        c.decode_encode p kv.2 (h kv (by simp)),
        ih fun b hb => h b (List.mem_cons_of_mem kv hb)]
      rfl

private theorem representable_of_mapM_entry
    (c : Codec N P α) {trees : List (String × Json N)}
    {items : List (String × α)} (h : trees.mapM c.entry = some items) :
    ∀ kv ∈ items, c.Representable kv.2 := by
  induction trees generalizing items with
  | nil =>
      obtain rfl : [] = items := by simpa using h
      simp
  | cons j rest ih =>
      rw [List.mapM_cons] at h
      obtain ⟨kv, hkv, h⟩ := Option.bind_eq_some_iff.mp h
      obtain ⟨kvs, hkvs, h⟩ := Option.bind_eq_some_iff.mp h
      obtain rfl : kv :: kvs = items := by simpa using h
      obtain ⟨a, ha, rfl⟩ := Option.map_eq_some_iff.mp hkv
      intro b hb
      rcases List.mem_cons.mp hb with rfl | hb
      · exact c.representable_of_decode _ _ ha
      · exact ih hkvs b hb

/-- An ordered map, written as an object. -/
def map (c : Codec N P α) : Codec N P (BTreeMap String α) where
  encode p m := Json.ofFields (m.toList.map fun kv =>
    (kv.1, c.encode p kv.2))
  decode j := j.entries.bind fun trees =>
    (trees.mapM c.entry).map fun items =>
      Std.ExtTreeMap.ofList items compare
  mask p m := Std.ExtTreeMap.map (fun _ a => c.mask p a) m
  Representable m := ∀ (key : String) a, m[key]? = some a → c.Representable a
  decode_encode p m h := by
    have hsorted : ((m.toList.map fun kv =>
        (kv.1, c.encode p kv.2)).map Prod.fst).Pairwise (· < ·) := by
      rw [List.map_map]
      exact BTreeMap.keys_toList_sorted m
    have hrep : ∀ kv ∈ m.toList, c.Representable kv.2 := fun kv hkv =>
      h kv.1 kv.2 (BTreeMap.mem_toList_iff.mp hkv)
    rw [Json.entries_ofFields_of_sorted hsorted, Option.bind_some,
      c.mapM_entry p hrep, Option.map_some, Option.some.injEq]
    calc
      Std.ExtTreeMap.ofList
          (m.toList.map fun kv => (kv.1, c.mask p kv.2)) compare =
          Std.ExtTreeMap.ofList
            (Std.ExtTreeMap.map (fun _ a => c.mask p a) m).toList compare := by
        rw [Std.ExtTreeMap.toList_map]
      _ = Std.ExtTreeMap.map (fun _ a => c.mask p a) m :=
        BTreeMap.ofList_toList _
  encode_mask p m := by
    simp only [Std.ExtTreeMap.toList_map, List.map_map]
    congr 1
    exact List.map_congr_left fun kv _ => by simp [c.encode_mask]
  representable_of_decode j m h := by
    obtain ⟨trees, _, h⟩ := Option.bind_eq_some_iff.mp h
    obtain ⟨items, hitems, rfl⟩ := Option.map_eq_some_iff.mp h
    intro key a ha
    exact representable_of_mapM_entry c hitems _
      (BTreeMap.mem_of_getElem?_ofList ha)

theorem plain_map {c : Codec N P α} (h : c.Plain) : c.map.Plain := by
  intro p m
  apply Std.ExtTreeMap.ext_getElem?
  intro key
  simp only [map, Std.ExtTreeMap.getElem?_map]
  cases m[key]? with
  | none => rfl
  | some a => exact congrArg some (h p a)

end Codec

end Darcbench
