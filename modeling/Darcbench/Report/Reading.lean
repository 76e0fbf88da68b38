import Darcbench.Report.Redaction
import Darcbench.Report.StandIns

/-!
# Reading bundles back

A bundle is read from the bytes of its file.  Parsing a text is up to the
serialisation library and a parameter, of which only the round trip is known.
-/

namespace Darcbench

/-- The reader of JSON texts, as the serialisation library provides it. -/
class FromSlice (F : Type) [F64 F] [JsonText F] where
  fromSlice : List UInt8 → Option (Value F)
  fromSlice_toVec : ∀ tree : Value F,
    fromSlice (JsonText.toVec tree) = some tree
  fromSlice_toVecPretty : ∀ tree : Value F,
    fromSlice (JsonText.toVecPretty tree) = some tree
  fromSlice_nil : fromSlice [] = none

namespace Bundle

variable {F : Type} [F64 F] [Chrono] [JsonText F] [FromSlice F]

/-- The bundle that a file holds, if it holds one. -/
def fromSlice (bytes : List UInt8) : Option (Bundle F) :=
  (FromSlice.fromSlice bytes).bind bundleCodec.decode

/-- The bytes of the file that a bundle is written to. -/
def persisted (policy : RedactionPolicy) (bundle : Bundle F) : List UInt8 :=
  JsonText.toVecPretty (bundleCodec.encode policy bundle)

theorem fromSlice_nil : (fromSlice [] : Option (Bundle F)) = none := by
  rw [fromSlice, FromSlice.fromSlice_nil]
  rfl

theorem ne_nil_of_fromSlice {bytes : List UInt8} {bundle : Bundle F}
    (h : fromSlice bytes = some bundle) : bytes ≠ [] := by
  rintro rfl
  rw [fromSlice_nil] at h
  exact absurd h (by simp)

/-- A bundle that can be read back is, but for what the policy hides. -/
theorem fromSlice_persisted {bundle : Bundle F}
    (h : bundleCodec.Representable bundle) (policy : RedactionPolicy) :
    fromSlice (bundle.persisted policy) =
      some (bundle.mapSensitive (Sensitive.mask policy)) := by
  rw [fromSlice, persisted, FromSlice.fromSlice_toVecPretty, Option.bind_some,
    bundleCodec.decode_encode policy bundle h, bundleCodec_mask]

/-! ## The verdict of a bundle that is read back -/

omit [JsonText F] [FromSlice F] in
theorem verdict_of_decode {tree : Value F} {bundle : Bundle F}
    (h : bundleCodec.decode tree = some bundle) :
    (tree.get? "verdict").bind
      (verdictCodec : Codec _ RedactionPolicy _).decode =
        some bundle.verdict := by
  have hfields := Fields.decode_of_iso (Fields.decode_of_toCodec h)
  have henvironment := (Fields.decode_of_pair
    (Fields.decode_of_pair hfields).2).2
  have hscores := (Fields.decode_of_pair
    (Fields.decode_of_pair henvironment).2).2
  have hverdict := (Fields.decode_of_pair hscores).2
  exact (Fields.decode_of_pair hverdict).1

omit [JsonText F] [FromSlice F] in
theorem get?_verdict (policy : RedactionPolicy) (bundle : Bundle F) :
    (bundleCodec.encode policy bundle).get? "verdict" =
      some (verdictCodec.encode policy bundle.verdict) := by
  refine (Json.get?_ofFields _ _).trans ?_
  rfl

omit [Chrono] [JsonText F] [FromSlice F] in
theorem representable_verdict (verdict : Verdict) :
    (verdictCodec : Codec (Number F) RedactionPolicy Verdict).Representable
      verdict := by
  refine ⟨trivial, ?_, trivial⟩
  intro reason _
  cases reason <;> trivial

/-- Whatever is lost in a file, its bundle carries the verdict it was written
with. -/
theorem verdict_of_fromSlice_persisted {policy : RedactionPolicy}
    {bundle read : Bundle F}
    (h : fromSlice (bundle.persisted policy) = some read) :
    read.verdict = bundle.verdict := by
  rw [fromSlice, persisted, FromSlice.fromSlice_toVecPretty,
    Option.bind_some] at h
  have hread := verdict_of_decode h
  rw [get?_verdict, Option.bind_some, verdictCodec.decode_encode policy _
    (representable_verdict bundle.verdict)] at hread
  exact (Option.some.inj hread).symm.trans (verdictCodec_plain policy _)

end Bundle

/-! ## A reader of plain texts -/

namespace StandIns

open Classical in
/-- The tree with the given text. -/
noncomputable def readTree (bytes : List UInt8) : Option (Value Float) :=
  if h : ∃ tree, toBytes floatLiteral tree = bytes then some h.choose else none

theorem readTree_toBytes (tree : Value Float) :
    readTree (toBytes floatLiteral tree) = some tree := by
  have h : ∃ tree', toBytes floatLiteral tree' = toBytes floatLiteral tree :=
    ⟨tree, rfl⟩
  rw [readTree, dif_pos h]
  exact congrArg some (toBytes_injective h.choose_spec)

theorem toBytes_ne_nil (tree : Value Float) :
    toBytes floatLiteral tree ≠ [] := by
  intro h
  have hempty : String.ofList (tree.text (literal floatLiteral)) = "" :=
    String.toByteArray_inj.mp (ByteArray.ext (Array.ext' h))
  obtain ⟨c, rest, htext, -⟩ := Json.exists_text_eq_cons literals tree
  have hnil : c :: rest = [] :=
    htext.symm.trans (String.ofList_injective hempty)
  exact List.cons_ne_nil c rest hnil

noncomputable scoped instance : FromSlice Float where
  fromSlice := readTree
  fromSlice_toVec := readTree_toBytes
  fromSlice_toVecPretty := readTree_toBytes
  fromSlice_nil := by
    rw [readTree, dif_neg]
    rintro ⟨tree, htree⟩
    exact toBytes_ne_nil tree htree

end StandIns

end Darcbench
