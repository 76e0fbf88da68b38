import Darcbench.Support.Codec

/-!
# Lawful codecs for records

A record is written as the members of an object and read from a lookup
function, so records compose by putting their members side by side.  The round
trip of a composition needs its member names to be distinct; this is asked for
once, when the composed record becomes a codec.
-/

namespace Darcbench

variable {N P α β : Type}

/-- A representation of `α` by members of an object. -/
structure Fields (N P α : Type) where
  /-- Every member that may be written or looked up. -/
  names : List String
  encode : P → α → List (String × Json N)
  decode : (String → Option (Json N)) → Option α
  mask : P → α → α
  Representable : α → Prop
  name_mem : ∀ p a, ∀ entry ∈ encode p a, entry.1 ∈ names
  decode_encode : names.Nodup → ∀ p a, Representable a →
    ∀ find : String → Option (Json N),
      (∀ name ∈ names, find name = (encode p a).lookup name) →
        decode find = some (mask p a)
  encode_mask : ∀ p a, encode p (mask p a) = encode p a
  representable_of_decode : ∀ find a, decode find = some a → Representable a

namespace Fields

/-- A name that a record does not know is not among its written members. -/
theorem lookup_encode_eq_none
    (f : Fields N P α) (p : P) (a : α) {name : String}
    (h : name ∉ f.names) :
    (f.encode p a).lookup name = none := by
  rw [lookup_eq_none_iff_notMem_keys]
  intro hmem
  obtain ⟨entry, hentry, rfl⟩ := List.mem_map.mp hmem
  exact h (f.name_mem p a entry hentry)

/-! ## Single members -/

/-- A member that is always written and has to be there. -/
def field (name : String) (c : Codec N P α) : Fields N P α where
  names := [name]
  encode p a := [(name, c.encode p a)]
  decode find := (find name).bind c.decode
  mask := c.mask
  Representable := c.Representable
  name_mem p a entry h := by
    simp only [List.mem_singleton] at h
    simp [h]
  decode_encode _ p a ha find h := by
    rw [h name (by simp), List.lookup_cons_self, Option.bind_some,
      c.decode_encode p a ha]
  encode_mask p a := by
    rw [c.encode_mask]
  representable_of_decode find a h := by
    obtain ⟨j, _, h⟩ := Option.bind_eq_some_iff.mp h
    exact c.representable_of_decode j a h

/-- A member that is always written and read as `default` when it is absent. -/
def defaulted (name : String) (c : Codec N P α) (default : α)
    (hdefault : c.Representable default) : Fields N P α where
  names := [name]
  encode p a := [(name, c.encode p a)]
  decode find :=
    match find name with
    | some j => c.decode j
    | none => some default
  mask := c.mask
  Representable := c.Representable
  name_mem p a entry h := by
    simp only [List.mem_singleton] at h
    simp [h]
  decode_encode _ p a ha find h := by
    rw [h name (by simp), List.lookup_cons_self]
    exact c.decode_encode p a ha
  encode_mask p a := by
    rw [c.encode_mask]
  representable_of_decode find a h := by
    split at h
    · exact c.representable_of_decode _ a h
    · obtain rfl : default = a := Option.some.inj h
      exact hdefault

/-- A member that is left out for some values, all equal to the default that
its absence is read as. -/
def skipWhen (name : String) (c : Codec N P α) (default : α)
    (skip : α → Bool) (hdefault : c.Representable default)
    (hskip : ∀ a, skip a = true → a = default)
    (hplain : c.Plain) : Fields N P α where
  names := [name]
  encode p a := if skip a then [] else [(name, c.encode p a)]
  decode find :=
    match find name with
    | some j => c.decode j
    | none => some default
  mask _ a := a
  Representable := c.Representable
  name_mem p a entry h := by
    split at h
    · simp at h
    · simp only [List.mem_singleton] at h
      simp [h]
  decode_encode _ p a ha find h := by
    rw [h name (by simp)]
    split
    · next j heq =>
      split at heq
      · simp at heq
      · obtain rfl : c.encode p a = j := by simpa using heq
        rw [c.decode_encode p a ha, hplain]
    · next heq =>
      split at heq
      · next hs => rw [hskip a hs]
      · simp at heq
  encode_mask _ _ := rfl
  representable_of_decode find a h := by
    split at h
    · exact c.representable_of_decode _ a h
    · obtain rfl : default = a := Option.some.inj h
      exact hdefault

/-- An optional member, absent as `null`; reading also accepts its absence. -/
def optional (name : String) (c : Codec N P α)
    (hnull : c.decode .null = none) : Fields N P (Option α) :=
  defaulted name (c.option hnull) none (fun _ h => by simp at h)

/-- An optional member that is left out when it is absent. -/
def skipNone (name : String) (c : Codec N P α)
    (hnull : c.decode .null = none) (hplain : c.Plain) :
    Fields N P (Option α) :=
  skipWhen name (c.option hnull) none Option.isNone
    (fun _ h => by simp at h)
    (fun a h => by simpa using h)
    (c.plain_option hnull hplain)

/-! ## Composition -/

/-- The members of two records side by side. -/
def pair (f : Fields N P α) (g : Fields N P β) : Fields N P (α × β) where
  names := f.names ++ g.names
  encode p a := f.encode p a.1 ++ g.encode p a.2
  decode find := (f.decode find).bind fun a =>
    (g.decode find).map fun b => (a, b)
  mask p a := (f.mask p a.1, g.mask p a.2)
  Representable a := f.Representable a.1 ∧ g.Representable a.2
  name_mem p a entry h := by
    rcases List.mem_append.mp h with h | h
    · exact List.mem_append_left _ (f.name_mem p a.1 entry h)
    · exact List.mem_append_right _ (g.name_mem p a.2 entry h)
  decode_encode hnodup p a ha find h := by
    obtain ⟨hf, hg, hdisjoint⟩ := List.nodup_append.mp hnodup
    have hfindf : ∀ name ∈ f.names,
        find name = (f.encode p a.1).lookup name := by
      intro name hname
      have hnotin : name ∉ g.names := fun hmem =>
        hdisjoint name hname name hmem rfl
      rw [h name (List.mem_append_left _ hname), List.lookup_append,
        g.lookup_encode_eq_none p a.2 hnotin, Option.or_none]
    have hfindg : ∀ name ∈ g.names,
        find name = (g.encode p a.2).lookup name := by
      intro name hname
      have hnotin : name ∉ f.names := fun hmem =>
        hdisjoint name hmem name hname rfl
      rw [h name (List.mem_append_right _ hname), List.lookup_append,
        f.lookup_encode_eq_none p a.1 hnotin, Option.none_or]
    rw [f.decode_encode hf p a.1 ha.1 find hfindf, Option.bind_some,
      g.decode_encode hg p a.2 ha.2 find hfindg, Option.map_some]
  encode_mask p a := by
    rw [f.encode_mask, g.encode_mask]
  representable_of_decode find a h := by
    obtain ⟨b, hb, h⟩ := Option.bind_eq_some_iff.mp h
    obtain ⟨c, hc, rfl⟩ := Option.map_eq_some_iff.mp h
    exact ⟨f.representable_of_decode find b hb,
      g.representable_of_decode find c hc⟩

/-- The same members under another type. -/
def iso (e : α ≃ β) (f : Fields N P β) : Fields N P α where
  names := f.names
  encode p a := f.encode p (e a)
  decode find := (f.decode find).map e.symm
  mask p a := e.symm (f.mask p (e a))
  Representable a := f.Representable (e a)
  name_mem p a := f.name_mem p (e a)
  decode_encode hnodup p a ha find h := by
    rw [f.decode_encode hnodup p (e a) ha find h, Option.map_some]
  encode_mask p a := by
    rw [e.apply_symm_apply, f.encode_mask]
  representable_of_decode find a h := by
    obtain ⟨b, hb, rfl⟩ := Option.map_eq_some_iff.mp h
    rw [e.apply_symm_apply]
    exact f.representable_of_decode find b hb

/-- A record as an object. -/
def toCodec (f : Fields N P α) (hnodup : f.names.Nodup) : Codec N P α where
  encode p a := Json.ofFields (f.encode p a)
  decode j :=
    match j with
    | .object _ _ => f.decode j.get?
    | _ => none
  mask := f.mask
  Representable := f.Representable
  decode_encode p a ha :=
    f.decode_encode hnodup p a ha _ fun name _ =>
      Json.get?_ofFields (f.encode p a) name
  encode_mask p a := by
    rw [f.encode_mask]
  representable_of_decode j a h := by
    split at h
    · exact f.representable_of_decode _ a h
    · simp at h

/-! ## Members of a record that was read -/

theorem decode_of_iso {e : α ≃ β} {f : Fields N P β}
    {find : String → Option (Json N)} {a : α}
    (h : (iso e f).decode find = some a) :
    f.decode find = some (e a) := by
  obtain ⟨b, hb, rfl⟩ := Option.map_eq_some_iff.mp h
  rw [e.apply_symm_apply, hb]

theorem decode_of_pair {f : Fields N P α} {g : Fields N P β}
    {find : String → Option (Json N)} {a : α × β}
    (h : (pair f g).decode find = some a) :
    f.decode find = some a.1 ∧ g.decode find = some a.2 := by
  obtain ⟨b, hb, h⟩ := Option.bind_eq_some_iff.mp h
  obtain ⟨c, hc, rfl⟩ := Option.map_eq_some_iff.mp h
  exact ⟨hb, hc⟩

theorem decode_of_toCodec {f : Fields N P α} {hnodup : f.names.Nodup}
    {j : Json N} {a : α} (h : (f.toCodec hnodup).decode j = some a) :
    f.decode j.get? = some a := by
  cases j with
  | object keys vals => exact h
  | _ => exact absurd h (by simp [toCodec])

/-- No policy hides anything of a record. -/
def Plain (f : Fields N P α) : Prop :=
  ∀ p a, f.mask p a = a

theorem plain_field (name : String) {c : Codec N P α} (h : c.Plain) :
    (field name c).Plain :=
  h

theorem plain_defaulted (name : String) {c : Codec N P α} (default : α)
    (hdefault : c.Representable default) (h : c.Plain) :
    (defaulted name c default hdefault).Plain :=
  h

theorem plain_optional (name : String) {c : Codec N P α}
    (hnull : c.decode .null = none) (h : c.Plain) :
    (optional name c hnull).Plain :=
  c.plain_option hnull h

theorem plain_skipWhen (name : String) {c : Codec N P α} (default : α)
    (skip : α → Bool) (hdefault : c.Representable default)
    (hskip : ∀ a, skip a = true → a = default) (h : c.Plain) :
    (skipWhen name c default skip hdefault hskip h).Plain :=
  fun _ _ => rfl

theorem plain_skipNone (name : String) {c : Codec N P α}
    (hnull : c.decode .null = none) (h : c.Plain) :
    (skipNone name c hnull h).Plain :=
  fun _ _ => rfl

theorem plain_pair {f : Fields N P α} {g : Fields N P β}
    (hf : f.Plain) (hg : g.Plain) :
    (f.pair g).Plain := fun p a =>
  Prod.ext (hf p a.1) (hg p a.2)

theorem plain_iso (e : α ≃ β) {f : Fields N P β} (h : f.Plain) :
    (iso e f).Plain := fun p a =>
  (congrArg e.symm (h p (e a))).trans (e.symm_apply_apply a)

theorem plain_toCodec {f : Fields N P α} (hnodup : f.names.Nodup)
    (h : f.Plain) :
    (f.toCodec hnodup).Plain :=
  h

/-! ## Variants -/

/-- A value of one of several record types, with the name of its type as one
more member. -/
def tagged {K : Type} {A : K → Type} (tag : String) (naming : Naming K)
    (payload : (k : K) → Fields N P (A k)) (others : List String)
    (hothers : ∀ k, ∀ name ∈ (payload k).names, name ∈ others)
    (hnodup : ∀ k, (tag :: (payload k).names).Nodup) :
    Fields N P ((k : K) × A k) where
  names := tag :: others
  encode p a := (tag, .string (naming.name a.1)) :: (payload a.1).encode p a.2
  decode find :=
    match find tag with
    | some (.string s) =>
        (naming.find? s).bind fun k =>
          ((payload k).decode find).map fun b => ⟨k, b⟩
    | _ => none
  mask p a := ⟨a.1, (payload a.1).mask p a.2⟩
  Representable a := (payload a.1).Representable a.2
  name_mem p a entry h := by
    rcases List.mem_cons.mp h with rfl | h
    · exact List.mem_cons_self
    · exact List.mem_cons_of_mem _
        (hothers a.1 _ ((payload a.1).name_mem p a.2 entry h))
  decode_encode _ p a ha find h := by
    obtain ⟨hnotin, hpayload⟩ := List.nodup_cons.mp (hnodup a.1)
    have htag : find tag = some (.string (naming.name a.1)) := by
      rw [h tag List.mem_cons_self, List.lookup_cons_self]
    have hfind : ∀ name ∈ (payload a.1).names,
        find name = ((payload a.1).encode p a.2).lookup name := by
      intro name hname
      have hne : name ≠ tag := fun heq => hnotin (heq ▸ hname)
      rw [h name (List.mem_cons_of_mem _ (hothers a.1 name hname)),
        List.lookup_cons, beq_eq_false_iff_ne.mpr hne]
    simp only [htag, naming.find?_name, Option.bind_some,
      (payload a.1).decode_encode hpayload p a.2 ha find hfind,
      Option.map_some]
  encode_mask p a := by
    simp only [(payload a.1).encode_mask]
  representable_of_decode find a h := by
    split at h
    · obtain ⟨k, _, h⟩ := Option.bind_eq_some_iff.mp h
      obtain ⟨b, hb, rfl⟩ := Option.map_eq_some_iff.mp h
      exact (payload k).representable_of_decode find b hb
    · simp at h

theorem plain_tagged {K : Type} {A : K → Type} {tag : String}
    {naming : Naming K} {payload : (k : K) → Fields N P (A k)}
    {others : List String}
    {hothers : ∀ k, ∀ name ∈ (payload k).names, name ∈ others}
    {hnodup : ∀ k, (tag :: (payload k).names).Nodup}
    (h : ∀ k, (payload k).Plain) :
    (tagged tag naming payload others hothers hnodup).Plain := fun p a =>
  congrArg (Sigma.mk a.1) (h a.1 p a.2)

end Fields

namespace Codec

/-- A value of one of several types, written as the name of its type if there
is nothing else to say, and as the only member of an object otherwise. -/
def variants {K : Type} {A : K → Type} (naming : Naming K) (bare : K → Bool)
    (payload : (k : K) → Codec N P (A k))
    (hbare : ∀ k, bare k = true → ∀ p b, (payload k).encode p b = .null) :
    Codec N P ((k : K) × A k) where
  encode p a :=
    if bare a.1 then
      .string (naming.name a.1)
    else
      Json.ofFields [(naming.name a.1, (payload a.1).encode p a.2)]
  decode
    | .string s =>
        (naming.find? s).bind fun k =>
          if bare k then
            ((payload k).decode .null).map fun b => ⟨k, b⟩
          else
            none
    | .object keys vals =>
        match (Json.object keys vals).entries with
        | some [(s, j)] =>
            (naming.find? s).bind fun k =>
              ((payload k).decode j).map fun b => ⟨k, b⟩
        | _ => none
    | _ => none
  mask p a := ⟨a.1, (payload a.1).mask p a.2⟩
  Representable a := (payload a.1).Representable a.2
  decode_encode p a ha := by
    have hdecode := (payload a.1).decode_encode p a.2 ha
    by_cases hb : bare a.1 = true
    · rw [hbare a.1 hb] at hdecode
      simp only [hb, if_true, naming.find?_name, Option.bind_some, hdecode,
        Option.map_some]
    · have hsorted : ([(naming.name a.1, (payload a.1).encode p a.2)].map
          Prod.fst).Pairwise (· < ·) :=
        List.pairwise_singleton _ _
      have hentries := Json.entries_ofFields_of_sorted hsorted
      rw [if_neg hb]
      simp only [Json.ofFields] at hentries ⊢
      simp only [hentries, naming.find?_name, Option.bind_some, hdecode,
        Option.map_some]
  encode_mask p a := by
    simp only [(payload a.1).encode_mask]
  representable_of_decode j a h := by
    split at h
    · obtain ⟨k, _, h⟩ := Option.bind_eq_some_iff.mp h
      split at h
      · obtain ⟨b, hb, rfl⟩ := Option.map_eq_some_iff.mp h
        exact (payload k).representable_of_decode _ b hb
      · simp at h
    · split at h
      · obtain ⟨k, _, h⟩ := Option.bind_eq_some_iff.mp h
        obtain ⟨b, hb, rfl⟩ := Option.map_eq_some_iff.mp h
        exact (payload k).representable_of_decode _ b hb
      · simp at h
    · simp at h

theorem plain_variants {K : Type} {A : K → Type} {naming : Naming K}
    {bare : K → Bool} {payload : (k : K) → Codec N P (A k)}
    {hbare : ∀ k, bare k = true → ∀ p b, (payload k).encode p b = .null}
    (h : ∀ k, (payload k).Plain) :
    (variants naming bare payload hbare).Plain := fun p a =>
  congrArg (Sigma.mk a.1) (h a.1 p a.2)

end Codec

end Darcbench
