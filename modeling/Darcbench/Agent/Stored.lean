import Darcbench.Agent.RunHandle
import Darcbench.Report.Reading
import Darcbench.Support.Lines

/-!
# Stored runs

What the directory of a run answers once the run itself is no longer in memory:
the bundle, and the log of its events, one to a line.
-/

namespace Darcbench

open Codec Fields

/-! ## Events without sensitive texts -/

section

variable {F : Type} [F64 F] {P : Type} [Chrono]

theorem Event.Kind.fields_plain (kind : Event.Kind) :
    (fields kind : Fields (Number F) P (kind.Body F)).Plain := by
  cases kind
  all_goals refine plain_iso _ ?_
  all_goals repeat' apply plain_pair
  all_goals first
    | exact fun _ _ => rfl
    | exact plain_field _ moduleResultCodec_plain
    | exact plain_field _ verdictCodec_plain
    | exact plain_optional _ rfl f64Codec_plain
    | exact plain_field _ (plain_list fun _ _ => rfl)

/-- No policy hides anything in an event. -/
theorem envelopeCodec_plain :
    (envelopeCodec : Codec (Number F) P (Envelope F)).Plain := by
  refine plain_toCodec _ (plain_iso _ ?_)
  refine plain_pair (fun _ _ => rfl) <| plain_pair (fun _ _ => rfl) <|
    plain_pair (fun _ _ => rfl) <| plain_pair (fun _ _ => rfl) <|
    plain_pair (fun _ _ => rfl) ?_
  exact plain_iso _ (plain_tagged Event.Kind.fields_plain)

end

/-! ## Reading a log -/

/-- The compact texts of the serialisation library: they are text, they have
no line breaks, and that of an object starts with a brace. -/
class LogText (F : Type) [F64 F] [JsonText F] : Prop where
  isUtf8_toVec : ∀ tree : Value F, isUtf8 (JsonText.toVec tree) = true
  unbroken_toVec : ∀ tree : Value F, Lines.Unbroken (JsonText.toVec tree)
  toVec_object : ∀ keys (vals : {key // key ∈ keys} → Value F),
    ∃ rest, JsonText.toVec (.object keys vals) = 0x7b :: rest

section

variable {F : Type} [F64 F] [Chrono] [JsonText F]

section

variable [FromSlice F]

/-- The event on a line. -/
def envelopeFromStr (line : List UInt8) : Option (Envelope F) :=
  (FromSlice.fromSlice line).bind
    (envelopeCodec : Codec _ Unit _).decode

/-- The events of a log, unless some line of it is no event. -/
def storedEvents (bytes : List UInt8) : Option (List (Envelope F)) :=
  if isUtf8 bytes then
    ((Lines.lines bytes).filter fun line => !Lines.isBlank line).mapM
      envelopeFromStr
  else none

theorem envelopeFromStr_toVec {envelope : Envelope F}
    (h : (envelopeCodec : Codec _ Unit _).Representable envelope) :
    envelopeFromStr (JsonText.toVec (envelopeCodec.encode () envelope)) =
      some envelope := by
  rw [envelopeFromStr, FromSlice.fromSlice_toVec, Option.bind_some,
    envelopeCodec.decode_encode () envelope h, envelopeCodec_plain]

end

variable [LogText F]

theorem isUtf8_flatMap_logLine (log : List (Envelope F)) :
    isUtf8 (log.flatMap EventRecord.logLine) = true := by
  induction log with
  | nil => rfl
  | cons envelope log ih =>
      have hline : isUtf8 (EventRecord.logLine envelope) = true :=
        isUtf8_append (LogText.isUtf8_toVec _) rfl
      rw [List.flatMap_cons]
      exact isUtf8_append hline ih

theorem isBlank_toVec (envelope : Envelope F) :
    Lines.isBlank (JsonText.toVec (envelopeCodec.encode () envelope)) =
      false := by
  obtain ⟨rest, hrest⟩ := LogText.toVec_object (F := F) _ _
  exact (congrArg Lines.isBlank hrest).trans rfl

/-- A log of events that can be written down reads back as those events. -/
theorem storedEvents_flatMap_logLine [FromSlice F] {log : List (Envelope F)}
    (h : ∀ envelope ∈ log,
      (envelopeCodec : Codec _ Unit _).Representable envelope) :
    storedEvents (log.flatMap EventRecord.logLine) = some log := by
  let texts := log.map fun envelope : Envelope F =>
    JsonText.toVec (envelopeCodec.encode () envelope)
  have htext : log.flatMap EventRecord.logLine = Lines.terminated texts := by
    rw [Lines.terminated, List.flatMap_map]
    rfl
  have hlines : Lines.lines (Lines.terminated texts) = texts := by
    refine Lines.lines_terminated fun text hmem => ?_
    obtain ⟨envelope, -, rfl⟩ := List.mem_map.mp hmem
    exact LogText.unbroken_toVec _
  have hfilter : texts.filter (fun line => !Lines.isBlank line) = texts := by
    refine List.filter_eq_self.mpr fun text hmem => ?_
    obtain ⟨envelope, -, rfl⟩ := List.mem_map.mp hmem
    rw [isBlank_toVec]
    rfl
  rw [storedEvents, isUtf8_flatMap_logLine, if_pos rfl, htext, hlines, hfilter]
  exact mapM_map_eq_some fun envelope hmem =>
    envelopeFromStr_toVec (h envelope hmem)

end

/-! ## Plain texts -/

namespace StandIns

/-- A byte below 128 is a character of its own. -/
theorem toNat_eq_of_mem_utf8EncodeChar {b : UInt8} {c : Char}
    (h : b ∈ String.utf8EncodeChar c) (hb : b.toNat < 128) :
    c.toNat = b.toNat := by
  have hhigh : ∀ n, 128 ≤ n → n < 256 → b ≠ UInt8.ofNat n := by
    intro n hle hlt heq
    rw [heq, UInt8.toNat_ofNat'] at hb
    omega
  change c.val.toNat = b.toNat
  simp only [String.utf8EncodeChar] at h
  split_ifs at h with hone htwo hthree
  · rw [List.mem_singleton] at h
    rw [h, UInt8.toNat_ofNat']
    exact (Nat.mod_eq_of_lt (by omega)).symm
  · simp only [List.mem_cons, List.not_mem_nil, or_false] at h
    rcases h with h | h
    all_goals exact absurd h (hhigh _ (by omega) (by omega))
  · simp only [List.mem_cons, List.not_mem_nil, or_false] at h
    rcases h with h | h | h
    all_goals exact absurd h (hhigh _ (by omega) (by omega))
  · simp only [List.mem_cons, List.not_mem_nil, or_false] at h
    rcases h with h | h | h | h
    all_goals exact absurd h (hhigh _ (by omega) (by omega))

theorem lineBreak_notMem_text {c : Char} (hc : c = '\n' ∨ c = '\r')
    (tree : Value Float) : c ∉ tree.text (literal floatLiteral) := by
  refine Json.notMem_text hc (fun n hmem => ?_) tree
  have hnumber := literals.mem n c hmem
  rcases hc with rfl | rfl
  · exact absurd hnumber (by decide)
  · exact absurd hnumber (by decide)

theorem toBytes_eq_flatMap (tree : Value Float) :
    toBytes floatLiteral tree =
      (tree.text (literal floatLiteral)).flatMap String.utf8EncodeChar := by
  simp [toBytes, List.utf8Encode]

theorem notMem_toBytes {b : UInt8} {c : Char} (hb : b.toNat < 128)
    (hc : c.toNat = b.toNat) (tree : Value Float)
    (h : c ∉ tree.text (literal floatLiteral)) :
    b ∉ toBytes floatLiteral tree := by
  intro hmem
  rw [toBytes_eq_flatMap] at hmem
  obtain ⟨d, hd, hbd⟩ := List.mem_flatMap.mp hmem
  have heq : d = c := Char.toNat_inj.mp
    ((toNat_eq_of_mem_utf8EncodeChar hbd hb).trans hc.symm)
  exact h (heq ▸ hd)

scoped instance : LogText Float where
  isUtf8_toVec tree := by
    refine ByteArray.validateUTF8_eq_true_iff.mpr ?_
    exact (String.ofList (tree.text (literal floatLiteral))).isValidUTF8
  unbroken_toVec tree :=
    ⟨notMem_toBytes (by decide) rfl tree
        (lineBreak_notMem_text (.inl rfl) tree),
      notMem_toBytes (by decide) rfl tree
        (lineBreak_notMem_text (.inr rfl) tree)⟩
  toVec_object keys vals := by
    change ∃ rest, toBytes floatLiteral _ = 0x7b :: rest
    rw [toBytes_eq_flatMap, Json.text, List.flatMap_cons]
    exact ⟨_, rfl⟩

end StandIns

end Darcbench
